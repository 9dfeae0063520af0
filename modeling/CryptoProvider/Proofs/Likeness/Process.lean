import CryptoProvider.Proofs.Factory.Lifecycle
import CryptoProvider.Proofs.Likeness.Operations

/-!
Two processes side by side, and one process at two times. Handles are counted for a notice only,
so processes that differ in handles and notices do the same. In the course of time a shared object
that nobody holds is never held again, and an instance without its parts never gets any.
-/

set_option autoImplicit false

namespace CryptoProvider

open Factory

variable {ω : Type}

/-- Two processes in which the same was done: they differ at most in notices and in handles. -/
structure Process.Alike (s t : Process ω) : Prop where
  platform : Platform.Alike s.toPlatform t.toPlatform
  suites : s.suites = t.suites
  generators : s.generators = t.generators
  length : s.instances.length = t.instances.length
  owned : subsystems? s = subsystems? t
  current : s.current = t.current

namespace Process.Alike

variable {s t : Process ω}

theorem refl (s : Process ω) : Alike s s :=
  ⟨.refl _, rfl, rfl, rfl, rfl, rfl⟩

theorem symm (alike : Alike s t) : Alike t s :=
  ⟨alike.platform.symm, alike.suites.symm, alike.generators.symm, alike.length.symm,
    alike.owned.symm, alike.current.symm⟩

theorem trans {r : Process ω} (first : Alike r s) (second : Alike s t) : Alike r t :=
  ⟨first.platform.trans second.platform, first.suites.trans second.suites,
    first.generators.trans second.generators, first.length.trans second.length,
    first.owned.trans second.owned, first.current.trans second.current⟩

theorem onPlatform (alike : Alike s t) {first second : Platform ω}
    (platform : Platform.Alike first second) :
    Alike { s with toPlatform := first } { t with toPlatform := second } :=
  ⟨platform, alike.suites, alike.generators, alike.length, alike.owned, alike.current⟩

end Process.Alike

namespace Factory

/-- A shelf at a later time: nothing leaves it, and what nobody held is still not held. -/
def Aged {α : Type} (holders : α → Nat) (shelf later : List α) : Prop :=
  ∀ (place : Nat) (object : α), shelf[place]? = some object →
    ∃ aged, later[place]? = some aged ∧ (holders object = 0 → holders aged = 0)

namespace Aged

variable {α : Type} {holders : α → Nat} {shelf later : List α}

theorem refl (shelf : List α) : Aged holders shelf shelf :=
  fun _ object found => ⟨object, found, id⟩

theorem trans {last : List α} (first : Aged holders shelf later)
    (second : Aged holders later last) : Aged holders shelf last := by
  intro place object found
  obtain ⟨between, stands, unheld⟩ := first place object found
  obtain ⟨aged, remains, still⟩ := second place between stands
  exact ⟨aged, remains, fun free => still (unheld free)⟩

-- A new place is at the end of the shelf.
theorem append (object : α) : Aged holders shelf (shelf ++ [object]) := by
  intro place other found
  have bound : place < shelf.length := (List.getElem?_eq_some_iff.mp found).1
  exact ⟨other, by rw [List.getElem?_append_left bound, found], id⟩

theorem modify {number : Nat} {change : α → α}
    (allowed : ∀ object, shelf[number]? = some object → holders object = 0 →
      holders (change object) = 0) : Aged holders shelf (shelf.modify number change) := by
  intro place object found
  rw [List.getElem?_modify, found]
  by_cases same : number = place
  · subst same
    exact ⟨change object, by simp, allowed object found⟩
  · exact ⟨object, by simp [same], id⟩

end Aged

/-- A process at a later time. No shared object is taken up again that nobody held, and an instance
that was there has its parts only if it had them before. -/
structure Later (s next : Process ω) : Prop where
  suites : Aged SharedSuite.holders s.suites next.suites
  generators : Aged SharedGenerator.holders s.generators next.generators
  grows : s.instances.length ≤ next.instances.length
  owned : ∀ number < s.instances.length, ∀ owned,
    subsystems? next number = some owned → subsystems? s number = some owned

namespace Later

variable {s next : Process ω}

theorem refl (s : Process ω) : Later s s :=
  ⟨.refl _, .refl _, Nat.le_refl _, fun _ _ _ owns => owns⟩

theorem trans {last : Process ω} (first : Later s next) (second : Later next last) :
    Later s last where
  suites := first.suites.trans second.suites
  generators := first.generators.trans second.generators
  grows := Nat.le_trans first.grows second.grows
  owned number bound owned owns :=
    first.owned number bound owned
      (second.owned number (Nat.lt_of_lt_of_le bound first.grows) owned owns)

-- A change of the shelves only.
theorem of_shelves (suites : Aged SharedSuite.holders s.suites next.suites)
    (generators : Aged SharedGenerator.holders s.generators next.generators)
    (same : next.instances = s.instances) : Later s next where
  suites := suites
  generators := generators
  grows := Nat.le_of_eq (congrArg List.length same.symm)
  owned number _ owned owns := by
    rw [subsystems?, same] at owns
    exact owns

end Later

/-- A program in the course of time that does the same on processes that are alike. -/
structure Regular {α : Type} (program : StateM (Process ω) α) : Prop where
  oblivious : Oblivious Process.Alike program
  later : ∀ s, Later s (program s).2

namespace Regular

variable {α β : Type}

theorem pure (value : α) : Regular (Pure.pure value : StateM (Process ω) α) :=
  ⟨Oblivious.pure value, Later.refl⟩

theorem bind {program : StateM (Process ω) α} {rest : α → StateM (Process ω) β}
    (first : Regular program) (next : ∀ value, Regular (rest value)) :
    Regular (program >>= rest) where
  oblivious := .bind first.oblivious fun value => (next value).oblivious
  later s := (first.later s).trans ((next _).later _)

-- What is done with a state may hang on the fact that it was read just before.
theorem look {rest : Process ω → StateM (Process ω) β}
    (same : ∀ s t, Process.Alike s t → rest s = rest t)
    (oblivious : ∀ s, Oblivious Process.Alike (rest s)) (later : ∀ s, Later s (rest s s).2) :
    Regular (MonadState.get >>= rest) :=
  ⟨.read same oblivious, later⟩

theorem read {rest : Process ω → StateM (Process ω) β}
    (same : ∀ s t, Process.Alike s t → rest s = rest t) (next : ∀ s, Regular (rest s)) :
    Regular (MonadState.get >>= rest) :=
  look same (fun s => (next s).oblivious) fun s => (next s).later s

theorem onPlatform {operation : StateM (Platform ω) α}
    (oblivious : Oblivious Platform.Alike operation) : Regular (Process.onPlatform operation) where
  oblivious := by
    intro s t alike
    obtain ⟨same, platform⟩ := oblivious s.toPlatform t.toPlatform alike.platform
    exact ⟨same, alike.onPlatform platform⟩
  later _ := .of_shelves (.refl _) (.refl _) rfl

theorem note (notice : Notice) : Regular (Process.onPlatform (ω := ω) (Platform.note notice)) :=
  onPlatform (Platform.oblivious_note notice)

-- What changes neither the shelves nor an instance is judged by what it does to two processes.
theorem of_alike {program : StateM (Process ω) PUnit} (silent : ∀ s, Process.Alike s (program s).2) :
    Regular program where
  oblivious s t alike := ⟨rfl, ((silent s).symm.trans alike).trans (silent t)⟩
  later s := by
    have alike := silent s
    refine ⟨?_, ?_, Nat.le_of_eq alike.length, fun number _ owned owns => ?_⟩
    · rw [← alike.suites]
      exact .refl _
    · rw [← alike.generators]
      exact .refl _
    · rw [alike.owned]
      exact owns

theorem forM {subject : Option α} {program : α → StateM (Process ω) PUnit}
    (each : ∀ value, Regular (program value)) : Regular (subject.forM program) := by
  cases subject with
  | none => exact .pure _
  | some value => exact each value

end Regular

theorem oblivious_setSuiteHolders (number holders : Nat) :
    Oblivious (Process.Alike (ω := ω)) (setSuiteHolders number holders) := by
  intro s t alike
  refine ⟨rfl, alike.platform, ?_, alike.generators, alike.length, alike.owned,
    alike.current⟩
  change s.suites.modify number _ = t.suites.modify number _
  rw [alike.suites]

theorem oblivious_setGeneratorHolders (number holders : Nat) :
    Oblivious (Process.Alike (ω := ω)) (setGeneratorHolders number holders) := by
  intro s t alike
  refine ⟨rfl, alike.platform, alike.suites, ?_, alike.length, alike.owned, alike.current⟩
  change s.generators.modify number _ = t.generators.modify number _
  rw [alike.generators]

-- A count may change where it is not zero, or where it becomes zero.
theorem later_setSuiteHolders {s : Process ω} {number holders : Nat} {shared : SharedSuite ω}
    (found : s.suites[number]? = some shared) (allowed : shared.holders = 0 → holders = 0) :
    Later s (setSuiteHolders number holders s).2 := by
  refine .of_shelves (.modify fun object stands free => ?_) (.refl _) rfl
  obtain rfl := Option.some.inj (found.symm.trans stands)
  exact allowed free

theorem later_setGeneratorHolders {s : Process ω} {number holders : Nat}
    {shared : SharedGenerator ω} (found : s.generators[number]? = some shared)
    (allowed : shared.holders = 0 → holders = 0) :
    Later s (setGeneratorHolders number holders s).2 := by
  refine .of_shelves (.refl _) (.modify fun object stands free => ?_) rfl
  obtain rfl := Option.some.inj (found.symm.trans stands)
  exact allowed free

theorem regular_acquireSuite? (number : Nat) : Regular (ω := ω) (acquireSuite? number) := by
  unfold acquireSuite?
  apply Regular.look
  · intro s t alike
    rw [alike.suites]
  · intro s
    cases s.suites[number]? with
    | none => exact .pure _
    | some shared =>
      dsimp only
      split
      · exact .pure _
      · exact .bind (oblivious_setSuiteHolders _ _) fun _ => .pure _
  · intro s
    cases found : s.suites[number]? with
    | none => exact .refl s
    | some shared =>
      dsimp only
      split
      case isTrue => exact .refl s
      case isFalse held => exact later_setSuiteHolders found fun free => absurd free held

theorem regular_releaseSuite (number : Nat) : Regular (ω := ω) (releaseSuite number) := by
  have dropped : ∀ shared : SharedSuite ω, Regular
      (if shared.holders = 1 then Process.onPlatform shared.suite.drop else pure ()) := by
    intro shared
    split
    · exact .onPlatform shared.suite.handle.oblivious_drop
    · exact .pure _
  unfold releaseSuite
  apply Regular.look
  · intro s t alike
    rw [alike.suites]
  · intro s
    cases s.suites[number]? with
    | none => exact .pure _
    | some shared =>
      exact .bind (oblivious_setSuiteHolders _ _) fun _ => (dropped shared).oblivious
  · intro s
    cases found : s.suites[number]? with
    | none => exact .refl s
    | some shared =>
      have less : shared.holders = 0 → shared.holders - 1 = 0 := by omega
      exact (later_setSuiteHolders found less).trans ((dropped shared).later _)

theorem regular_acquireGenerator? (number : Nat) : Regular (ω := ω) (acquireGenerator? number) := by
  unfold acquireGenerator?
  apply Regular.look
  · intro s t alike
    rw [alike.generators]
  · intro s
    cases s.generators[number]? with
    | none => exact .pure _
    | some shared =>
      dsimp only
      split
      · exact .pure _
      · exact .bind (oblivious_setGeneratorHolders _ _) fun _ => .pure _
  · intro s
    cases found : s.generators[number]? with
    | none => exact .refl s
    | some shared =>
      dsimp only
      split
      case isTrue => exact .refl s
      case isFalse held => exact later_setGeneratorHolders found fun free => absurd free held

theorem regular_releaseGenerator (number : Nat) : Regular (ω := ω) (releaseGenerator number) := by
  have dropped : ∀ shared : SharedGenerator ω, Regular
      (if shared.holders = 1 then Process.onPlatform (ω := ω)
        (Platform.record shared.generator.reported (.generatorDrop shared.number))
      else pure ()) := by
    intro shared
    split
    · exact .onPlatform (Platform.oblivious_record _ _)
    · exact .pure _
  unfold releaseGenerator
  apply Regular.look
  · intro s t alike
    rw [alike.generators]
  · intro s
    cases s.generators[number]? with
    | none => exact .pure _
    | some shared =>
      exact .bind (oblivious_setGeneratorHolders _ _) fun _ => (dropped shared).oblivious
  · intro s
    cases found : s.generators[number]? with
    | none => exact .refl s
    | some shared =>
      have less : shared.holders = 0 → shared.holders - 1 = 0 := by omega
      exact (later_setGeneratorHolders found less).trans ((dropped shared).later _)

theorem regular_shareSuite (suite : Engine.Suite ω) : Regular (shareSuite suite) where
  oblivious := by
    intro s t alike
    refine ⟨congrArg List.length alike.suites, alike.platform, ?_, alike.generators, alike.length,
      alike.owned, alike.current⟩
    exact congrArg (· ++ [⟨suite, 1⟩]) alike.suites
  later _ := .of_shelves (.append _) (.refl _) rfl

theorem regular_shareGenerator (generator : Generator ω) (number : Nat) :
    Regular (shareGenerator generator number) where
  oblivious := by
    intro s t alike
    refine ⟨congrArg List.length alike.generators, alike.platform, alike.suites, ?_, alike.length,
      alike.owned, alike.current⟩
    exact congrArg (· ++ [⟨generator, number, 1⟩]) alike.generators
  later _ := .of_shelves (.refl _) (.append _) rfl

end Factory

end CryptoProvider
