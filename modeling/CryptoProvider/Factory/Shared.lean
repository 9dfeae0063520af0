import CryptoProvider.Factory.State

/-!
Objects shared between an instance and the operations on its products. Products know a suite or a
generator by its number only; an operation acquires it first, which succeeds as long as somebody
holds it, and releases it in the end. The last holder to let go drops it.
-/

set_option autoImplicit false

namespace CryptoProvider.Factory

variable {ω : Type}

def shareSuite (suite : Engine.Suite ω) : StateM (Process ω) Nat := fun s =>
  (s.suites.length, { s with suites := s.suites ++ [⟨suite, 1⟩] })

def setSuiteHolders (number holders : Nat) : StateM (Process ω) Unit :=
  modify fun s =>
    { s with suites := s.suites.modify number fun shared => { shared with holders } }

/-- Begins an operation on a suite, unless nobody holds it any more. -/
def acquireSuite? (number : Nat) : StateM (Process ω) (Option (Engine.Suite ω)) := do
  match (← get).suites[number]? with
  | none => return none
  | some shared =>
    if shared.holders = 0 then return none
    setSuiteHolders number (shared.holders + 1)
    return some shared.suite

/-- Lets a suite go; the last one drops it. -/
def releaseSuite (number : Nat) : StateM (Process ω) Unit := do
  match (← get).suites[number]? with
  | none => pure ()
  | some shared =>
    setSuiteHolders number (shared.holders - 1)
    if shared.holders = 1 then shared.suite.drop

def shareGenerator (generator : Generator ω) (number : Nat) : StateM (Process ω) Nat := fun s =>
  (s.generators.length, { s with generators := s.generators ++ [⟨generator, number, 1⟩] })

def setGeneratorHolders (number holders : Nat) : StateM (Process ω) Unit :=
  modify fun s =>
    { s with generators := s.generators.modify number fun shared => { shared with holders } }

def acquireGenerator? (number : Nat) : StateM (Process ω) (Option (SharedGenerator ω)) := do
  match (← get).generators[number]? with
  | none => return none
  | some shared =>
    if shared.holders = 0 then return none
    setGeneratorHolders number (shared.holders + 1)
    return some shared

def releaseGenerator (number : Nat) : StateM (Process ω) Unit := do
  match (← get).generators[number]? with
  | none => pure ()
  | some shared =>
    setGeneratorHolders number (shared.holders - 1)
    if shared.holders = 1 then
      Process.onPlatform
        (Platform.record shared.generator.reported (.generatorDrop shared.number))

end CryptoProvider.Factory
