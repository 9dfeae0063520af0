import CryptoProvider.Platform.Collaborators
import CryptoProvider.Notice

/-!
What happens, in order: the calls made to collaborators, the changes of the slots that the whole
process shares, and the notices given. Modules, contexts and references carry numbers that are
never used twice, so a trace says which of them a call is about.
-/

set_option autoImplicit false

namespace CryptoProvider

namespace Locking

inductive Callback where
  | bridge
  | foreign (owner : Nat)
  deriving DecidableEq, Repr

end Locking

/-- A call made to a collaborator, with its answer where later behaviour can depend on it. -/
inductive Call where
  | moduleOpened (module : Nat) (path : String)
  | moduleMissed (path : String)
  | moduleClosed (module : Nat) (path : String)
  | transportInfo (module : Nat) (plugin : String)
  /-- The size query: a start routine called without a context. -/
  | transportSize (module : Nat) (plugin : String) (config : Option String) (status : Nat)
  | transportStart (module : Nat) (plugin : String) (context : Nat) (config : Option String)
      (size : Nat) (zeroed : Bool) (status : Nat)
  | transportFinalize (plugin : String) (context magic : Nat) (loaded : Bool)
  | commandSize (maximum size : Nat)
  | commandStart (context size : Nat) (zeroed : Bool) (transport : Nat) (abi : AbiVersion)
      (status : Nat)
  /-- The lookup of the nested transport context, and the one it gave back. -/
  | commandTransport (context status : Nat) (nested : Option Nat)
  | commandFinalize (context : Nat)
  | engineLoad (flags : Nat)
  | engineFind (id : String) (found : Option EngineRef)
  | engineStart (engine : EngineRef) (done : Bool)
  | engineSetDefault (engine : EngineRef) (methods : Nat)
  | engineDigest (engine : EngineRef) (algorithm : Int)
  | engineRegisterKeys (engine : EngineRef)
  | engineControl (engine : EngineRef) (command argument : String)
  | engineFinish (engine : EngineRef)
  | engineFree (engine : EngineRef)
  | engineKey (engine : EngineRef) (algorithm : Int) (parameters : List (String × String))
  /-- Key generation goes on after it has reset the factory. -/
  | engineKeyResumes (engine : EngineRef)
  | complianceQuery (enabled : Bool)
  | complianceEnable (done : Bool)
  | complianceReseed
  | lockCount (registry : Nat) (count : Int)
  | callbackSet (registry : Nat) (callback : Option Locking.Callback)
  | foreignCallback (owner : Nat) (mode index line : Int)
  | generatorCreate (generator : Option Nat)
  | generate (generator count : Nat)
  | generateResumes (generator : Nat)
  | generatorDrop (generator : Nat)
  deriving DecidableEq, Repr

/-- A change of a slot that the whole process shares, by what it holds afterwards. -/
inductive Change where
  | transport (module : Option Nat)
  | pool (number : Option Nat)
  deriving DecidableEq, Repr

inductive Event where
  | call (reported : Bool) (call : Call)
  | change (change : Change)
  | notice (notice : Notice)
  deriving DecidableEq, Repr

end CryptoProvider
