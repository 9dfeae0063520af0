import CryptoProvider.Command.Hardware
import CryptoProvider.Engine.HardwareRandom
import CryptoProvider.Engine.Suite
import CryptoProvider.Locking.Bridge

/-!
The state of the whole process: the shared platform, the objects that an instance shares with
operations in flight, every instance there ever was, and the one that is current.
-/

set_option autoImplicit false

namespace CryptoProvider

namespace Factory

structure Backends (ω : Type) where
  registry : Nat
  engines : EngineApi ω
  compliance : ComplianceModule ω
  modules : ModuleLoader ω
  generators : GeneratorSource ω

structure Options (ω : Type) where
  config : Config
  backends : Backends ω

structure Subsystems (ω : Type) where
  lockBridge : Option Locking.Bridge
  compliant : Bool
  hardwareRandom : Option (Engine.HardwareRandom ω)
  generator : Option Nat
  hardware : Option (Command.Hardware ω)
  suite : Option Nat

/-- An instance and how many handles callers hold on it; it owns nothing once it is reset. -/
structure Instance (ω : Type) where
  subsystems : Option (Subsystems ω)
  handles : Nat

/-- An alternate suite, and how many hold it: its owner and the operations in flight on it. -/
structure SharedSuite (ω : Type) where
  suite : Engine.Suite ω
  holders : Nat

structure SharedGenerator (ω : Type) where
  generator : Generator ω
  number : Nat
  holders : Nat

end Factory

/-- The state of the process. Instances, suites and generators go by their place in the list. -/
structure Process (ω : Type) extends Platform ω where
  suites : List (Factory.SharedSuite ω)
  generators : List (Factory.SharedGenerator ω)
  instances : List (Factory.Instance ω)
  current : Option Nat

namespace Process

variable {ω : Type}

def clean (outside : ω) : Process ω :=
  { Platform.clean outside with suites := [], generators := [], instances := [], current := none }

def onPlatform {α : Type} (operation : StateM (Platform ω) α) : StateM (Process ω) α := fun s =>
  let (a, platform) := operation s.toPlatform
  (a, { s with toPlatform := platform })

instance : MonadLift (StateM (Platform ω)) (StateM (Process ω)) := ⟨onPlatform⟩

end Process

end CryptoProvider
