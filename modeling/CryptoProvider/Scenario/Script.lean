import CryptoProvider.Factory.State
import CryptoProvider.Scenario.Stage

/-! Collaborators that follow a script, and those of a system that has nothing to offer. -/

set_option autoImplicit false

namespace CryptoProvider.Scenario

inductive LibraryScript where
  | plugin (number : Nat)
  | empty
  | command (without : List String)
  deriving DecidableEq, Repr

namespace LibraryScript

/-- What a plugin's start routine does: it writes a header where there is room for one. -/
def startRoutine (number : Nat) : StartRoutine Stage := fun context size _ => do
  let settings := (← get).plugin number
  match context with
  | none =>
    return ⟨settings.sizeStatus, if settings.sizeStatus = 0 then settings.size else size, none⟩
  | some buffer =>
    let header : Header Stage :=
      ⟨number, settings.headerVersion, if settings.finalizer then some (pure ()) else none⟩
    let written := settings.startStatus = 0 ∧ 64 ≤ buffer.size
    return ⟨settings.startStatus, size, if written then some (.of header) else none⟩

def pluginExports (number : Nat) : TransportPlugin Stage where
  label := s!"tcti{number}"
  info := do
    let settings := (← get).plugin number
    if settings.nullInfo then return none
    let described : TransportInfo Stage :=
      { version := settings.version
        name := settings.name
        description := settings.description
        configHelp := settings.configHelp
        start := if settings.noStart then none else some (startRoutine number) }
    return some (.of described)

/-- What making a command context does: the library remembers the transport, whatever its status. -/
def startCommands (context : CommandContext) : StateM Stage Nat := do
  modify fun s => { s with lastTransport := some context.transport }
  return (← get).command.startStatus

def nameTransport (context : CommandContext) : StateM Stage (Nat × Option Nat) := do
  let s ← get
  let settings := s.command
  let nested := match settings.nested with
    | .same => s.lastTransport
    | .null => none
    | .foreign => some (context.transport + 1)
  return (settings.nestedStatus, nested)

def commandExports (without : List String) : CommandSymbols Stage :=
  let offer {α : Type} (symbol : String) (routine : α) : Option α :=
    if without.contains symbol then none else some routine
  { contextSize := offer "Tss2_Sys_GetContextSize" fun _ => do return (← get).command.size
    start := offer "Tss2_Sys_Initialize" fun context _ => startCommands context
    nestedTransport := offer "Tss2_Sys_GetTctiContext" nameTransport
    finalize := offer "Tss2_Sys_Finalize" fun _ => pure () }

def noCommands : CommandSymbols Stage :=
  ⟨none, none, none, none⟩

def moduleExports : LibraryScript → NativeModule Stage
  | plugin number => ⟨some (pluginExports number), noCommands⟩
  | empty => ⟨none, noCommands⟩
  | command without => ⟨none, commandExports without⟩

def standard : List (String × LibraryScript) :=
  [("libtss2-tcti-fake.so.0", .plugin 0), ("libfake-tss2-sys.so", .command [])]

def loader (libraries : List (String × LibraryScript)) : ModuleLoader Stage where
  reported := true
  find path := return (libraries.lookup path).map moduleExports

end LibraryScript

inductive KeyScript where
  | succeeds
  | refusesParameter
  | unavailable
  /-- It resets the factory and then succeeds. -/
  | resets
  deriving DecidableEq, Repr

structure EngineScript where
  /-- Ids that are not found; a star stands for all. -/
  missing : List String
  /-- Steps that fail, for all engines or, after a colon, for one. -/
  failing : List String
  digest : Digest
  key : KeyScript

namespace EngineScript

def standard : EngineScript :=
  ⟨[], [], Digest.sha256, .succeeds⟩

def fails (script : EngineScript) (step id : String) : Bool :=
  script.failing.contains step || script.failing.contains s!"{step}:{id}"

def fixedKey : Key.Private :=
  .ec .prime256v1 0xc9afa9d845ba75166b5c215767b1d6934e50c3db36e89b127b8a622b120f6721

def api (script : EngineScript) : EngineApi Stage where
  reported := true
  loadBuiltin _ := return !script.failing.contains "load"
  find id := return !(script.missing.contains "*" || script.missing.contains id)
  start engine := return !script.fails "init" engine.id
  setDefault engine _ := return !script.fails "set_default" engine.id
  digest engine _ := return if script.fails "digest" engine.id then none else some script.digest
  registerKeys engine := return !script.fails "asn1" engine.id
  control engine _ _ := return !script.fails "ctrl" engine.id
  finish _ := pure ()
  free _ := pure ()
  generateKey engine _ _ := return match script.key with
    | .succeeds => ⟨false, .ok fixedKey⟩
    | .resets => ⟨true, .ok fixedKey⟩
    | .refusesParameter =>
      ⟨false, .error (.invalidParameter (.reported "key parameter paramset=A"))⟩
    | .unavailable => ⟨false, .error (.engineUnavailable engine.id)⟩

end EngineScript

def complianceModule (number : Nat) : ComplianceModule Stage :=
  let settings (s : Stage) := s.compliance.getD number ComplianceSettings.standard
  { reported := true
    isEnabled := do return (settings (← get)).enabled
    enable := do
      let accepts := (settings (← get)).accepts
      modify fun s =>
        { s with compliance := s.compliance.modify number fun c => { c with enabled := accepts } }
      return accepts
    reseed := pure () }

inductive GeneratorScript where
  | counter
  | limited
  | resetting
  | unavailable
  | invalid
  | library
  deriving DecidableEq, Repr

namespace GeneratorScript

/-- Gives the next `count` numbers; with a limit, nothing beyond it. -/
def countUp (number : Nat) (limit : Option Nat) (resets : Bool) : Generator Stage where
  reported := true
  generate count := do
    let given := (← get).given.getD number 0
    if limit.any (· < given + count) then
      return ⟨resets, .error (.invalidState (.reported "exhausted"))⟩
    modify fun s => { s with given := s.given.set number (given + count) }
    return ⟨resets, .ok ((List.range count).map fun i => UInt8.ofNat (given + i))⟩

def makeCounter (limit : Option Nat) (resets : Bool) :
    StateM Stage (Except Error (Generator Stage)) := do
  let number := (← get).given.length
  modify fun s => { s with given := s.given ++ [0] }
  return .ok (countUp number limit resets)

/-- The generator of the cryptographic library; nobody reports on it. -/
def libraryGenerator : Generator Stage where
  reported := false
  generate count := do return ⟨false, .ok (← Stage.randomBytes count)⟩

def source : GeneratorScript → GeneratorSource Stage
  | counter => ⟨true, makeCounter none false⟩
  | limited => ⟨true, makeCounter (some 16) false⟩
  | resetting => ⟨true, makeCounter none true⟩
  | unavailable => ⟨true, return .error .generatorUnavailable⟩
  | invalid => ⟨true, return .error (.invalidParameter (.reported "no entropy"))⟩
  | library => ⟨false, return .ok libraryGenerator⟩

end GeneratorScript

/-! A system without engines, compliance provider or transport libraries, whose cryptographic library
serializes its own state. -/

namespace BareSystem

def registry : Locking.Registry :=
  ⟨false, true, 0, none⟩

def engines : EngineApi Stage where
  reported := false
  loadBuiltin _ := return false
  find _ := return false
  start _ := return false
  setDefault _ _ := return false
  digest _ _ := return none
  registerKeys _ := return false
  control _ _ _ := return false
  finish _ := pure ()
  free _ := pure ()
  generateKey _ _ _ := return ⟨false, .error .cryptoLibrary⟩

def compliance : ComplianceModule Stage :=
  ⟨false, return false, return false, pure ()⟩

def loader : ModuleLoader Stage :=
  ⟨false, fun _ => return none⟩

def backends (registry : Nat) : Factory.Backends Stage :=
  ⟨registry, engines, compliance, loader, GeneratorScript.library.source⟩

end BareSystem

end CryptoProvider.Scenario
