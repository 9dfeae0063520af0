import CryptoProvider.Key.Basic

/-!
The collaborators of the library, as answers. Each call may read and change an outside world `ω`,
about which nothing else is known; so a statement for all `ω` and all collaborators covers every
way in which they can succeed, fail and remember. A collaborator that is `reported` appears in the
event report; the call trace has all of them.
-/

set_option autoImplicit false

namespace CryptoProvider

/-- A structural reference to an engine: a number of its own, and the engine's id. -/
structure EngineRef where
  number : Nat
  id : String
  deriving DecidableEq, Repr

/-- The answer to a key generation. The engine may have reset the factory before it answered. -/
structure KeyReply where
  resets : Bool
  result : Except Error Key.Private

structure EngineApi (ω : Type) where
  reported : Bool
  loadBuiltin : (flags : Nat) → StateM ω Bool
  find : (id : String) → StateM ω Bool
  start : EngineRef → StateM ω Bool
  setDefault : EngineRef → (methods : Nat) → StateM ω Bool
  digest : EngineRef → (algorithm : Int) → StateM ω (Option Digest)
  registerKeys : EngineRef → StateM ω Bool
  control : EngineRef → (command argument : String) → StateM ω Bool
  finish : EngineRef → StateM ω Unit
  free : EngineRef → StateM ω Unit
  generateKey :
    EngineRef → (algorithm : Int) → (parameters : List (String × String)) → StateM ω KeyReply

structure ComplianceModule (ω : Type) where
  reported : Bool
  isEnabled : StateM ω Bool
  enable : StateM ω Bool
  reseed : StateM ω Unit

/-- The answer to a request for random bytes. The generator may have reset the factory meanwhile. -/
structure RandomReply where
  resets : Bool
  result : Except Error Bytes

structure Generator (ω : Type) where
  reported : Bool
  generate : (count : Nat) → StateM ω RandomReply

structure GeneratorSource (ω : Type) where
  reported : Bool
  create : StateM ω (Except Error (Generator ω))

/-- Memory of a plugin that is read through a pointer, and that nobody writes to any more: whenever
it is read, it holds the same. -/
structure Static (ω α : Type) where
  read : ω → α
  value : α
  unchanged : ∀ outside, read outside = value

def Static.of {ω α : Type} (value : α) : Static ω α :=
  ⟨fun _ => value, value, fun _ => rfl⟩

structure Header (ω : Type) where
  magic : Nat
  version : Nat
  /-- The finalizer, unless its pointer is null. -/
  finalizer : Option (StateM ω Unit)

/-- A context buffer: its size, and the header once one was written over the zeros. -/
structure Buffer (ω : Type) where
  size : Nat
  header : Option (Static ω (Header ω))

/-- The answer of a transport's start routine: its status, the size it stored, what it wrote. -/
structure StartReply (ω : Type) where
  status : Nat
  size : Nat
  header : Option (Static ω (Header ω))

/-- A transport's start routine. Without a context it only reports the size it needs. -/
abbrev StartRoutine (ω : Type) :=
  (context : Option (Buffer ω)) → (size : Nat) → (config : Option String) → StateM ω (StartReply ω)

/-- A transport plugin's description of itself. Texts are null or end at their first zero byte. -/
structure TransportInfo (ω : Type) where
  version : Nat
  name : Option Bytes
  description : Option Bytes
  configHelp : Option Bytes
  start : Option (StartRoutine ω)

structure TransportPlugin (ω : Type) where
  label : String
  /-- A pointer to the plugin's description, which is static data of the plugin; it can be null. -/
  info : StateM ω (Option (Static ω (TransportInfo ω)))

structure AbiVersion where
  creator : Nat
  family : Nat
  level : Nat
  version : Nat
  deriving DecidableEq, Repr

def AbiVersion.current : AbiVersion := ⟨1, 2, 1, 108⟩

structure CommandContext where
  number : Nat
  size : Nat
  transport : Nat
  deriving DecidableEq, Repr

structure CommandSymbols (ω : Type) where
  contextSize : Option ((maximum : Nat) → StateM ω Nat)
  start : Option (CommandContext → AbiVersion → StateM ω Nat)
  /-- Status and the number of the transport context reported; no number for a null pointer. -/
  nestedTransport : Option (CommandContext → StateM ω (Nat × Option Nat))
  finalize : Option (CommandContext → StateM ω Unit)

structure NativeModule (ω : Type) where
  transport : Option (TransportPlugin ω)
  command : CommandSymbols ω

structure ModuleLoader (ω : Type) where
  reported : Bool
  find : (path : String) → StateM ω (Option (NativeModule ω))

end CryptoProvider
