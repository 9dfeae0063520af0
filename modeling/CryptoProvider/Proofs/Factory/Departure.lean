import CryptoProvider.Proofs.Factory.Epochs

/-!
What products need of their instance. An instance keeps its suite and its generator until it is
reset; from then on nobody holds them, and they are lost for good.
-/

set_option autoImplicit false

namespace CryptoProvider.Factory

variable {ω : Type}

/-- A shared object of an instance that a product cannot do without. -/
inductive Need where
  | suite (place : Nat)
  | generator (place : Nat)
  deriving DecidableEq, Repr

namespace Need

/-- Whether the object is one of an instance's parts. -/
def PartOf (owned : Subsystems ω) : Need → Prop
  | suite place => owned.suite = some place
  | generator place => owned.generator = some place

/-- Whether the object was shared, and nobody holds it any more. -/
def Lost (s : Process ω) : Need → Prop
  | suite place => s.suites[place]?.map SharedSuite.holders = some 0
  | generator place => s.generators[place]?.map SharedGenerator.holders = some 0

end Need

theorem Aged.unheld {α : Type} {holders : α → Nat} {shelf later : List α}
    (aged : Aged holders shelf later) {place : Nat} (unheld : shelf[place]?.map holders = some 0) :
    later[place]?.map holders = some 0 := by
  obtain ⟨object, found, free⟩ := Option.map_eq_some_iff.mp unheld
  obtain ⟨object, stands, still⟩ := aged place object found
  rw [stands]
  exact congrArg some (still free)

-- What nobody holds is lost for good.
theorem Need.Lost.later {need : Need} {s next : Process ω} (lost : need.Lost s)
    (later : Later s next) : need.Lost next := by
  cases need with
  | suite place => exact later.suites.unheld lost
  | generator place => exact later.generators.unheld lost

section

variable {frame : List Ledger.Entry} {s next : Process ω} {number : Nat} {owned : Subsystems ω}

-- Without a live instance, and with no operation in flight, nobody holds what an instance shared.
theorem unheld_of_counted {α : Type} {holders : α → Nat} {view : α → Ledger.Entry × Nat}
    {objects later : List α} {place : Nat} (viewed : ∀ object, (view object).2 = holders object)
    (aged : Aged holders objects later)
    (owner : Shelf.Counted (objects.map view) [place] [])
    (nobody : Shelf.Counted (later.map view) [] []) :
    later[place]?.map holders = some 0 := by
  have positive : 0 < [place].count place + (([] : List Flight).map Prod.fst).count place := by simp
  obtain ⟨entry, count, shelved, _⟩ := owner.found positive
  rw [List.getElem?_map] at shelved
  obtain ⟨object, found, _⟩ := Option.map_eq_some_iff.mp shelved
  obtain ⟨object, stands, _⟩ := aged place object found
  have none := nobody.holders place
  rw [List.getElem?_map, stands] at none
  rw [stands, Option.map_some, ← viewed]
  exact congrArg some (by simpa using none)

theorem lost_of_vacant {need : Need} (steady : Steady false frame s) (lives : live? s = some owned)
    (part : need.PartOf owned) (after : Steady false frame next) (vacant : next.current = none)
    (later : Later s next) : need.Lost next := by
  have empty : live? next = none := live?_of_none vacant
  cases need with
  | suite place =>
    have owner := steady.standing.suites
    have nobody := after.standing.suites
    rw [lives, Option.bind_some, show owned.suite = some place from part] at owner
    rw [empty] at nobody
    exact unheld_of_counted (fun _ => rfl) later.suites owner nobody
  | generator place =>
    have owner := steady.standing.generators
    have nobody := after.standing.generators
    rw [lives, Option.bind_some, show owned.generator = some place from part] at owner
    rw [empty] at nobody
    exact unheld_of_counted (fun _ => rfl) later.generators owner nobody

/-- An instance that had its parts has them still, or what a product needs of them is lost. -/
def Remains (number : Nat) (owned : Subsystems ω) (need : Need) (s : Process ω) : Prop :=
  subsystems? s number = some owned ∨ subsystems? s number = none ∧ need.Lost s

theorem bound_of_owns (owns : subsystems? s number = some owned) : number < s.instances.length := by
  refine Nat.lt_of_not_le fun beyond => ?_
  rw [subsystems?_of_length_le beyond] at owns
  cases owns

theorem remains_step [Memory ω] {need : Need} (steady : Steady false frame s)
    (owns : subsystems? s number = some owned) (part : need.PartOf owned) (step : Step ω) :
    Remains number owned need (step.run s).2 := by
  have after := steady.run step
  have later := step.later_run s
  have current : s.current = some number :=
    (steady.standing.live number).mp (Option.isSome_iff_exists.mpr ⟨owned, owns⟩)
  cases parts : subsystems? (step.run s).2 number with
  | some kept =>
    have had := later.owned number (bound_of_owns owns) kept parts
    exact .inl (parts.trans (had.symm.trans owns))
  | none =>
    have gone := (not_congr (after.standing.live number)).mp (by simp [parts])
    have vacant := (current_step steady current step).resolve_left gone
    have lives : live? s = some owned := (live?_of_current current).trans owns
    exact .inr ⟨parts, lost_of_vacant steady lives part after vacant later⟩

-- In every run an instance keeps its parts until they are lost for good.
theorem remains_after [Memory ω] {need : Need} (steady : Steady false frame s)
    (owns : subsystems? s number = some owned) (part : need.PartOf owned)
    (steps : List (Step ω)) : Remains number owned need (after steps s) := by
  have kept : Steady false frame (after steps s) ∧ number < (after steps s).instances.length ∧
      Remains number owned need (after steps s) := by
    refine after_induction (fun t => Steady false frame t ∧ number < t.instances.length ∧
      Remains number owned need t) ?_ ⟨steady, bound_of_owns owns, .inl owns⟩
    rintro step - t ⟨steady, bound, remains⟩
    have later := step.later_run t
    refine ⟨steady.run step, Nat.lt_of_lt_of_le bound later.grows, ?_⟩
    rcases remains with owns | ⟨parts, lost⟩
    · exact remains_step steady owns part step
    · refine .inr ⟨?_, lost.later later⟩
      cases next : subsystems? (step.run t).2 number with
      | none => rfl
      | some owned =>
        rw [later.owned number bound owned next] at parts
        cases parts
  exact kept.2.2

end

end CryptoProvider.Factory
