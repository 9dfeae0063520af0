import CryptoProvider.Proofs.Factory.Restored

/-!
As long as an instance lives, it is what was built. Uses of it, handles and callbacks come and go
without changing anything that a reset looks at; and once an instance was taken down it never comes
back, for a later one gets another number.
-/

set_option autoImplicit false

namespace CryptoProvider.Factory

open Ledger

variable {ω : Type}

/-- Nothing was changed that a reset looks at. -/
structure Lasting (s t : Process ω) : Prop where
  slots : (slots t.toPlatform).Alike (slots s.toPlatform)
  owned : subsystems? t = subsystems? s
  current : t.current = s.current
  length : t.instances.length = s.instances.length
  next : t.next = s.next
  suites : t.suites = s.suites
  generators : t.generators = s.generators

namespace Lasting

variable {r s t : Process ω}

theorem refl (s : Process ω) : Lasting s s :=
  ⟨.refl _, rfl, rfl, rfl, rfl, rfl, rfl⟩

theorem trans (first : Lasting r s) (second : Lasting s t) : Lasting r t :=
  ⟨second.slots.trans first.slots, second.owned.trans first.owned,
    second.current.trans first.current, second.length.trans first.length,
    second.next.trans first.next, second.suites.trans first.suites,
    second.generators.trans first.generators⟩

theorem of_unmoved (unmoved : Unmoved s t) : Lasting s t :=
  ⟨unmoved.slots ▸ .refl _, unmoved.owned, unmoved.current, unmoved.length, unmoved.next,
    unmoved.suites, unmoved.generators⟩

theorem changeHandles (s : Process ω) (number : Nat) (change : Nat → Nat) :
    Lasting s (Factory.changeHandles number change s).2 :=
  ⟨.refl _, funext fun other => subsystems?_changeHandles s number other change, rfl,
    List.length_modify _ _ _, rfl, rfl, rfl⟩

theorem onPlatform {α : Type} {operation : StateM (Platform ω) α} {s : Process ω}
    (alike : (Ledger.slots (operation s.toPlatform).2).Alike (Ledger.slots s.toPlatform))
    (next : (operation s.toPlatform).2.next = s.next) :
    Lasting s (Process.onPlatform operation s).2 :=
  ⟨alike, rfl, rfl, rfl, next, rfl, rfl⟩

end Lasting

/-- An instance was built and is not the current one any more. -/
structure Bygone (number : Nat) (s : Process ω) : Prop where
  current : s.current ≠ some number
  built : number < s.instances.length

theorem Bygone.of_same {number : Nat} {s t : Process ω} (bygone : Bygone number s)
    (current : t.current = s.current) (length : t.instances.length = s.instances.length) :
    Bygone number t :=
  ⟨current ▸ bygone.current, length ▸ bygone.built⟩

/-- What one step makes of the process: all lasts, or the factory was reset in its course. -/
inductive Outcome (s t : Process ω) : Prop where
  | lasts (lasting : Lasting s t)
  | reset (current : t.current = none) (length : t.instances.length = s.instances.length)

theorem Passed.outcome {origin : Slots ω} {s t : Process ω} (restorable : Restorable origin s)
    (passed : Passed s t) : Outcome s t := by
  cases passed with
  | unmoved unmoved => exact .lasts (.of_unmoved unmoved)
  | reset before early late =>
    obtain ⟨current, length⟩ := (restorable.reshelved early).current_reset
    exact .reset (late.current.trans current) (late.length.trans (length.trans early.length))

/-- The steps that build nothing: there is an instance already, or they do not ask for one. -/
theorem outcome_step [Memory ω] {origin : Slots ω} {step : Step ω} (own : step.interferes = false)
    {s : Process ω} (restorable : Restorable origin s)
    (served : step.demands = true → s.current ≠ none) : Outcome s (step.run s).2 := by
  cases step with
  | demand options =>
    obtain ⟨number, current⟩ := Option.ne_none_iff_exists'.mp (served rfl)
    change Outcome s (demand _ s).2
    rw [demand_eq, current]
    exact .lasts (.changeHandles s number _)
  | reset =>
    obtain ⟨current, length⟩ := restorable.current_reset
    exact .reset current length
  | cloneHandle number => exact .lasts (.changeHandles s number _)
  | dropHandle number => exact .lasts (.changeHandles s number _)
  | dispatch number request => exact .lasts (.of_unmoved (passes_dispatch number request s))
  | use operation => exact (operation.passed_run s).outcome restorable
  | serve registry mode index file line =>
    rw [serve_eq]
    cases (s.registry registry).callback with
    | none => exact .lasts (.refl s)
    | some callback =>
      obtain ⟨alike, next⟩ := Locking.alike_call callback mode index file line s.toPlatform
      exact .lasts (.onPlatform alike next)
  | lockCount registry count =>
    exact .lasts (.onPlatform (.setLockCount (slots s.toPlatform) registry count) rfl)
  | outside act => exact .lasts (.onPlatform (.refl _) rfl)
  | loadTransport _ _ _ | unloadTransport | writeCallback _ _ => cases own

/-- A later instance gets another number. -/
theorem Bygone.construct [Memory ω] {number : Nat} {s : Process ω} (bygone : Bygone number s)
    (options : Options ω) :
    Bygone number (Factory.construct options s).2 := by
  obtain ⟨built, -, holds⟩ := holds_build options s ⟨rfl, rfl, rfl, rfl⟩
  have adopted : (Factory.construct options s).2 = adopt (build options s).1 (build options s).2 :=
    rfl
  have length := holds.length
  have earlier := bygone.built
  rw [adopted]
  refine ⟨fun current => ?_, ?_⟩
  · -- A new instance is numbered by how many there were before it.
    have same : (build options s).2.instances.length = number := Option.some.inj current
    omega
  · change number < ((build options s).2.instances ++ [_]).length
    rw [List.length_append, length]
    omega

theorem Bygone.step [Memory ω] {origin : Slots ω} {number : Nat} {step : Step ω}
    (own : step.interferes = false) {s : Process ω} (restorable : Restorable origin s)
    (bygone : Bygone number s) : Bygone number (step.run s).2 := by
  by_cases served : step.demands = true → s.current ≠ none
  · cases outcome_step own restorable served with
    | lasts lasting => exact bygone.of_same lasting.current lasting.length
    | reset current length => exact ⟨by simp [current], length ▸ bygone.built⟩
  · obtain ⟨demands, vacant⟩ := Classical.not_imp.mp served
    cases step with
    | demand options =>
      change Bygone number (demand _ s).2
      rw [demand_eq, Classical.not_not.mp vacant]
      have asked : Bygone number (Process.onPlatform (Platform.consult options) s).2 :=
        bygone.of_same rfl rfl
      exact asked.construct _
    | _ => cases demands

/-- From when an instance is built, all lasts until it is bygone for good. -/
theorem lasting_or_bygone [Memory ω] {origin : Slots ω} (unpublished : origin.pool = none)
    {steps : List (Step ω)} (own : ∀ step ∈ steps, step.interferes = false) {s : Process ω}
    (restorable : Restorable origin s) {number : Nat} (current : s.current = some number)
    (built : number < s.instances.length) :
    Lasting s (after steps s) ∨ Bygone number (after steps s) := by
  -- A step must be known to start from restorable slots, so that is carried along the run.
  refine (after_induction (fun t => Restorable origin t ∧ (Lasting s t ∨ Bygone number t)) ?_
    ⟨restorable, .inl (.refl s)⟩).2
  rintro step member t ⟨restorable, lasting | bygone⟩
  · refine ⟨restorable_step unpublished (own step member) restorable, ?_⟩
    have served : t.current = some number := lasting.current.trans current
    cases outcome_step (own step member) restorable (fun _ => by simp [served]) with
    | lasts further => exact .inl (lasting.trans further)
    | reset vacant length =>
      exact .inr ⟨by simp [vacant], (length.trans lasting.length) ▸ built⟩
  · exact ⟨restorable_step unpublished (own step member) restorable,
      .inr (bygone.step (own step member) restorable)⟩

theorem lasting_of_current [Memory ω] {origin : Slots ω} (unpublished : origin.pool = none)
    {steps : List (Step ω)} (own : ∀ step ∈ steps, step.interferes = false) {s : Process ω}
    (restorable : Restorable origin s) {number : Nat} (current : s.current = some number)
    (built : number < s.instances.length) (lives : (after steps s).current = s.current) :
    Lasting s (after steps s) := by
  rcases lasting_or_bygone unpublished own restorable current built with lasting | bygone
  · exact lasting
  · exact absurd (lives.trans current) bygone.current

end CryptoProvider.Factory
