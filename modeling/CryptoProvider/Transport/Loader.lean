import CryptoProvider.Transport.Context
import CryptoProvider.Transport.Spec
import CryptoProvider.Text.Utf8

/-!
The transport loader has one slot for the whole process. A load fills it or changes nothing;
unloading empties it and leaves the plugin's module open, for its code may still be running.
-/

set_option autoImplicit false

namespace CryptoProvider.Transport

variable {ω : Type}

def infoSymbol : String := "Tss2_Tcti_Info"

structure Description where
  version : Nat
  name : String
  description : String
  configHelp : String
  library : String
  deriving DecidableEq, Repr

def openConventional (loader : ModuleLoader ω) (name : String) :
    StateM (Platform ω) (Option (OpenModule ω)) := do
  match libraryName? name with
  | none =>
    Platform.note (.transportNameTooLong name.utf8ByteSize)
    return none
  | some path => OpenModule.open? loader path

/-- Opens a transport's library: by its name as it stands, else by the conventional file name. -/
def locate (loader : ModuleLoader ω) (name : String) :
    StateM (Platform ω) (Option (OpenModule ω)) := do
  match ← OpenModule.open? loader name with
  | some opened => return some opened
  | none => openConventional loader name

def start [Memory ω] (opened : OpenModule ω) (name : String) (config : Option String) :
    StateM (Platform ω) (Except Error (Static ω (TransportInfo ω) × Context ω)) := do
  match opened.exports.transport with
  | none =>
    Platform.note (.transportSymbolMissing infoSymbol name)
    return .error (.transportSymbolMissing infoSymbol name)
  | some plugin =>
    let info? ← Platform.consult plugin.info
    Platform.record opened.reported (.transportInfo opened.number plugin.label)
    match info? with
    | none => return .error (.transportInfoInvalid name)
    | some info =>
      match (← Platform.peek info).start with
      | none => return .error (.transportInfoInvalid name)
      | some routine =>
        match ← Context.querySize opened plugin routine name config with
        | .error cause => return .error cause
        | .ok size =>
          match ← Context.fill opened plugin routine name config size with
          | .error cause => return .error cause
          | .ok context => return .ok (info, context)

/-- Loads a transport into the empty slot and makes a context for it. -/
def load [Memory ω] (loader : ModuleLoader ω) (name : String) (config : Option String) :
    StateM (Platform ω) (Except Error (Context ω)) := do
  if (← get).transport.isSome then
    Platform.note (.transportOccupied name)
    return .error .transportOccupied
  match ← locate loader name with
  | none =>
    Platform.note (.transportNotFound name)
    return .error (.transportNotFound name)
  | some opened =>
    match ← start opened name config with
    | .error cause =>
      opened.close
      return .error cause
    | .ok (info, context) =>
      Platform.setTransport (some ⟨opened.number, info, name⟩)
      return .ok context

def unload : StateM (Platform ω) Unit := do
  if (← get).transport.isSome then Platform.setTransport none

def isLoaded (s : Platform ω) : Bool :=
  s.transport.isSome

def describe (library : String) (info : TransportInfo ω) : Description :=
  let text (bytes : Option Bytes) := (bytes.map Text.ofTerminated).getD ""
  { version := info.version
    name := text info.name
    description := text info.description
    configHelp := text info.configHelp
    library }

/-- The description of the transport that is loaded, read from its plugin at this time. -/
def describe? (s : Platform ω) : Option Description :=
  s.transport.map fun loaded => describe loaded.library (loaded.info.read s.outside)

def isPresent (loader : ModuleLoader ω) (name : String) : StateM (Platform ω) Bool := do
  match ← openConventional loader name with
  | none => return false
  | some opened =>
    opened.close
    return true

end CryptoProvider.Transport
