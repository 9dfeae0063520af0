import CryptoProvider.Command.Library
import CryptoProvider.Transport.Loader

/-!
The hardware context: a command context bound to the process's transport. Bringing it up holds on
to nothing when it fails. Teardown reads the nested transport, finalizes the command context and
then the transport context, and empties the transport slot; the command library stays open until
the hardware context is dropped.
-/

set_option autoImplicit false

namespace CryptoProvider.Command

/-- A hardware context; its parts are gone once it is torn down. -/
structure Hardware (ω : Type) where
  library : Library ω
  command : Option CommandContext
  transport : Option (Transport.Context ω)

namespace Hardware

variable {ω : Type}

def bind [Memory ω] (library : Library ω) (transport : Transport.Context ω) :
    StateM (Platform ω) (Except Error CommandContext) := do
  let reported := library.opened.reported
  let size ← Platform.consult (library.contextSize 0)
  Platform.record reported (.commandSize 0 size)
  match ← Buffer.allocate size with
  | .error cause =>
    Platform.note (.commandContextUnallocated cause)
    return .error cause
  | .ok buffer =>
    let number ← Platform.fresh
    let context : CommandContext := ⟨number, buffer.size, transport.number⟩
    let status ← Platform.consult (library.start context AbiVersion.current)
    Platform.record reported
      (.commandStart number size buffer.isZeroed transport.number AbiVersion.current status)
    if status ≠ 0 then
      Platform.note (.commandContextRefused status)
      return .error (.commandContextStart status)
    return .ok context

/-- Opens the command library, loads the transport and binds a command context to it. -/
def bringUp [Memory ω] (loader : ModuleLoader ω) (libraryPath : String) (spec : Transport.Spec) :
    StateM (Platform ω) (Except Error (Hardware ω)) := do
  match ← Library.openAt loader libraryPath with
  | .error cause => return .error cause
  | .ok library =>
    match ← Transport.load loader spec.name spec.config with
    | .error cause =>
      library.close
      return .error cause
    | .ok transport =>
      match ← bind library transport with
      | .error cause =>
        let _ ← transport.finalize
        Transport.unload
        library.close
        return .error cause
      | .ok command =>
        Platform.note (.commandContextBound spec.name)
        return .ok ⟨library, some command, some transport⟩

/-- The transport context that the command library reports; none if it cannot tell. -/
def nestedTransport (library : Library ω) (command : CommandContext) :
    StateM (Platform ω) (Option Nat) := do
  let (status, nested) ← Platform.consult (library.nestedTransport command)
  Platform.record library.opened.reported (.commandTransport command.number status nested)
  if status ≠ 0 then
    Platform.note (.nestedTransportUnread status)
    return none
  return nested

def releaseTransport (transport : Transport.Context ω) (nested : Option Nat) :
    StateM (Platform ω) Unit := do
  match nested with
  | none => Platform.note .transportNotFinalized
  | some number =>
    if number ≠ transport.number then Platform.note .foreignTransport
    let _ ← transport.finalize

/-- Takes the contexts down, the first time; afterwards does nothing. -/
def teardown (hardware : Hardware ω) : StateM (Platform ω) (Hardware ω) := do
  match hardware.command with
  | none => return hardware
  | some command =>
    let library := hardware.library
    let nested ← nestedTransport library command
    Platform.record library.opened.reported (.commandFinalize command.number)
    Platform.consult (library.finalize command)
    match hardware.transport with
    | none => pure ()
    | some transport => releaseTransport transport nested
    Transport.unload
    return ⟨library, none, none⟩

def drop (hardware : Hardware ω) : StateM (Platform ω) Unit := do
  let hardware ← hardware.teardown
  hardware.library.close

end Hardware

end CryptoProvider.Command
