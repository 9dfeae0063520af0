import CryptoProvider.Factory.Construction

/-!
The one instance of the process. The first demand builds it; `reset` tears it down, whatever
handles are held, and the next demand builds another. Each operation is one step: the slot is
locked throughout.
-/

set_option autoImplicit false

namespace CryptoProvider.Factory

variable {ω : Type}

/-- The instance a caller was given, and whether this call built it. -/
structure Demanded where
  number : Nat
  constructed : Bool
  deriving DecidableEq, Repr

def changeHandles (number : Nat) (change : Nat → Nat) : StateM (Process ω) Unit :=
  modify fun s =>
    { s with instances := s.instances.modify number fun i => { i with handles := change i.handles } }

def construct [Memory ω] (options : Options ω) : StateM (Process ω) Nat := do
  let subsystems ← build options
  modifyGet fun s =>
    let number := s.instances.length
    (number, { s with instances := s.instances ++ [⟨some subsystems, 1⟩], current := some number })

/-- A handle on the current instance, which is built from `options` if there is none. -/
def demand [Memory ω] (options : StateM (Process ω) (Options ω)) : StateM (Process ω) Demanded := do
  match (← get).current with
  | some number =>
    changeHandles number (· + 1)
    return ⟨number, false⟩
  | none => return ⟨← construct (← options), true⟩

def dropHandle (number : Nat) : StateM (Process ω) Unit :=
  changeHandles number (· - 1)

/-- What an instance owns; nothing once it is reset. -/
def subsystems? (s : Process ω) (number : Nat) : Option (Subsystems ω) :=
  s.instances[number]?.bind Instance.subsystems

def shutDown (number : Nat) : StateM (Process ω) Unit := do
  let owned := subsystems? (← get) number
  modify fun s =>
    { s with instances := s.instances.modify number fun i => { i with subsystems := none } }
  owned.forM destroy

def reset : StateM (Process ω) Unit := do
  match (← get).current with
  | none => pure ()
  | some number =>
    modify fun s => { s with current := none }
    let handles := ((← get).instances[number]?.map Instance.handles).getD 0
    if 0 < handles then Process.onPlatform (Platform.note (.resetWithHandles handles))
    shutDown number

def isInitialized (s : Process ω) : Bool :=
  s.current.isSome

def isReset (s : Process ω) (number : Nat) : Bool :=
  (subsystems? s number).isNone

/-- What an instance can do; a reset one can do nothing. -/
structure Capabilities where
  compliant : Bool
  hardware : Bool
  hardwareRandom : Bool
  suite : Bool
  locking : Locking.CallbackState
  deriving DecidableEq, Repr

def capabilities (s : Process ω) (number : Nat) : Capabilities :=
  match subsystems? s number with
  | none => ⟨false, false, false, false, .notInstalled⟩
  | some owned =>
    { compliant := owned.compliant
      hardware := owned.hardware.isSome
      hardwareRandom := owned.hardwareRandom.isSome
      suite := owned.suite.isSome
      locking := (owned.lockBridge.map Locking.Bridge.state).getD .notInstalled }

def withHardware {α : Type} (s : Process ω) (number : Nat) (look : Command.Hardware ω → α) :
    Option α :=
  (subsystems? s number).bind fun owned => owned.hardware.map look

end CryptoProvider.Factory
