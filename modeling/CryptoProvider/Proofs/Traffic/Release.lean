import CryptoProvider.Proofs.Ledger.Releases
import CryptoProvider.Proofs.Traffic.Attribution

/-!
When the engine of an alternate suite is given back. The last one to hold the suite does it, be it the
reset that takes the instance down or an operation that outlasts it, and nobody holds it afterwards.
-/

set_option autoImplicit false

namespace CryptoProvider.Factory

open Ledger

variable {ω : Type}

/-- The calls that give an engine back, oldest first. -/
def givenBack (engine : EngineRef) (calls : List Call) : List Call :=
  calls.filter fun call => call = .engineFinish engine ∨ call = .engineFree engine

section

variable {engine : EngineRef}

theorem givenBack_append (first second : List Call) :
    givenBack engine (first ++ second) = givenBack engine first ++ givenBack engine second :=
  List.filter_append _ _

theorem givenBack_eq_nil {calls : List Call}
    (others : ∀ call ∈ calls, call ≠ .engineFinish engine ∧ call ≠ .engineFree engine) :
    givenBack engine calls = [] := by
  refine List.filter_eq_nil_iff.mpr fun call member => ?_
  simpa using others call member

-- The calls that give an engine back are in its life.
theorem givenBack_life (s : Platform ω) :
    givenBack engine (s.life engine.number) = givenBack engine s.calls := by
  unfold givenBack Platform.life
  rw [List.filter_filter]
  refine List.filter_congr fun call _ => ?_
  by_cases finish : call = .engineFinish engine
  · simp [finish, Call.subjects]
  · by_cases free : call = .engineFree engine
    · simp [free, Call.subjects]
    · simp [finish, free]

-- An engine in use was not given back.
theorem givenBack_of_started {number : Nat} {life : List Call}
    (lived : (Phase.engineStarted engine).Lived number life) : givenBack engine life = [] := by
  obtain ⟨refusals, uses, refused, used, rfl⟩ := lived
  refine givenBack_eq_nil fun call member => ?_
  rcases List.mem_cons.mp member with rfl | member
  · simp
  · rcases List.mem_append.mp member with early | member
    · rw [refused call early]
      simp
    · rcases List.mem_cons.mp member with rfl | late
      · simp
      · have uses := used call late
        constructor
        · rintro rfl
          cases uses
        · rintro rfl
          cases uses

end

/-! The last one to let a suite go. -/

-- It matters only what is made of the object that stands there.
theorem modify_congr {α : Type} {objects : List α} {place : Nat} {first second : α → α}
    (same : ∀ object, objects[place]? = some object → first object = second object) :
    objects.modify place first = objects.modify place second := by
  refine List.ext_getElem? fun other => ?_
  rw [List.getElem?_modify, List.getElem?_modify]
  by_cases here : place = other
  · subst here
    cases found : objects[place]? with
    | none => rfl
    | some object => simp [same object found]
  · simp [here]

theorem suites_releaseSuite (place : Nat) (s : Process ω) :
    (releaseSuite place s).2.suites =
      s.suites.modify place fun shared => { shared with holders := shared.holders - 1 } := by
  rw [releaseSuite_eq]
  cases found : s.suites[place]? with
  | none => exact (List.modify_eq_self (List.getElem?_eq_none_iff.mp found)).symm
  | some shared =>
    have counted : (setSuiteHolders place (shared.holders - 1) s).2.suites =
        s.suites.modify place fun shared => { shared with holders := shared.holders - 1 } :=
      modify_congr fun object stands => by
        cases found.symm.trans stands
        rfl
    rw [← counted]
    dsimp only
    split <;> rfl

section

variable {s : Process ω} {place : Nat} {shared : SharedSuite ω}

theorem givenBack_of_last (found : s.suites[place]? = some shared) (last : shared.holders = 1)
    (started : shared.suite.handle.started = true) :
    givenBack shared.suite.handle.engine (releaseSuite place s).2.calls =
      givenBack shared.suite.handle.engine s.calls ++
        [.engineFinish shared.suite.handle.engine, .engineFree shared.suite.handle.engine] := by
  have told := (Engine.Handle.told_drop started s.toPlatform ⟨rfl, rfl⟩).1
  rw [releaseSuite_of_last found last, calls_of_acts, calls_of_acts s.toPlatform]
  change givenBack _ (((shared.suite.handle.drop s.toPlatform).2.acts).filterMap Act.call?) = _
  rw [told, List.filterMap_append, givenBack_append]
  congr 1
  simp [Engine.Handle.releases, givenBack, Act.call?]

-- The suite leaves the shelf, and nothing else does.
theorem stock_of_last (found : s.suites[place]? = some shared) (last : shared.holders = 1) :
    (stock s).Perm (shared.suite.handle.entry :: stock (releaseSuite place s).2) := by
  rw [releaseSuite_of_last found last]
  change (stock s).Perm (_ :: stock (setSuiteHolders place 0 s).2)
  have shelved : (suiteShelf s)[place]? = some shared.view := by
    rw [suiteShelf, List.getElem?_map, found, Option.map_some]
  have held : shared.view.2 ≠ 0 := by
    change shared.holders ≠ 0
    rw [last]
    exact Nat.one_ne_zero
  rw [stock, stock, suiteShelf_setHolders]
  exact (Shelf.held_setHolders_zero shelved held).append_right _

end

/-! What a move does to the suites on the shelf. -/

/-- A move adds suites to the shelf, lets an operation take one up, or has somebody let one go. -/
inductive Restocked (t next : Traffic ω) : Prop where
  | grown (more : t.process.suites <+: next.process.suites)
  | taken (place : Nat) (held : (Need.suite place).holders t.process ≠ 0)
      (same : next.process.suites =
        t.process.suites.modify place fun shared => { shared with holders := shared.holders + 1 })
  | left (place : Nat) (between : Process ω) (alike : Process.Alike t.process between)
      (same : next.process = (releaseSuite place between).2)
      (entries : next.rest.entries = t.rest.entries)

namespace Restocked

variable {t next : Traffic ω}

theorem of_suites (same : next.process.suites = t.process.suites) : Restocked t next :=
  .grown (same ▸ List.prefix_rfl)

theorem built [Memory ω] (options : StateM ω (Options ω)) :
    Restocked t (t.onProcess (Process.onPlatform (Platform.consult options) >>= construct)) := by
  have grown : Ensures (Grown t.process)
      (Process.onPlatform (Platform.consult options) >>= construct) fun _ => Grown t.process :=
    Ensures.bind (grown_onPlatform _) fun _ => Ensures.bind (grown_build _) fun _ s grown =>
      ⟨grown.1.suites, grown.1.generators⟩
  exact .grown (grown t.process (.refl _)).suites

theorem begun (need : Need) (more : List (Hold ω)) :
    Restocked t { t with process := (need.acquire? t.process).2, flights := more } := by
  cases need with
  | suite place =>
    rcases acquireSuite?_cases t.process place with failed | ⟨shared, found, held, acquired⟩
    · refine of_suites ?_
      dsimp only
      rw [Need.acquire?_suite, failed]
    · refine .taken place (by rw [Need.holders, found]; exact held) ?_
      dsimp only
      rw [Need.acquire?_suite, acquired]
      refine modify_congr fun object stands => ?_
      cases found.symm.trans stands
      rfl
  | generator place =>
    refine of_suites ?_
    dsimp only
    rw [Need.acquire?_generator]
    rcases acquireGenerator?_cases t.process place with failed | ⟨_, _, _, acquired⟩
    · rw [failed]
    · rw [acquired]
      rfl

end Restocked

theorem suites_releaseGenerator (place : Nat) (s : Process ω) :
    (releaseGenerator place s).2.suites = s.suites := by
  rw [releaseGenerator_eq]
  cases s.generators[place]? with
  | none => rfl
  | some shared =>
    dsimp only
    split <;> rfl

theorem dismissSuite_alike (place : Nat) (s : Process ω) :
    ∃ between, Process.Alike s between ∧
      (dismissSuite place s).2 = (releaseSuite place between).2 := by
  rw [dismissSuite_eq]
  cases found : s.suites[place]? with
  | none =>
    refine ⟨s, .refl s, ?_⟩
    rw [releaseSuite_eq, found]
    rfl
  | some shared =>
    dsimp only
    split
    · exact ⟨_, (Process.Alike.refl s).onPlatform (Platform.alike_note _ _), rfl⟩
    · exact ⟨s, .refl s, rfl⟩

theorem Advance.restocked [Memory ω] {t next : Traffic ω} (advance : Advance t next) :
    Restocked t next := by
  cases advance with
  | still => exact .of_suites rfl
  | built options free vacant => exact .built options
  | handled number change => exact .of_suites rfl
  | dispatched number request =>
    exact .of_suites (tells_dispatch number request t.process).suites.symm
  | begun product need needs => exact .begun need _
  | asked hold flies count => cases hold <;> exact .of_suites rfl
  | resumed hold flies => cases hold <;> exact .of_suites rfl
  | finished flight hold found =>
    cases hold with
    | suite place held => exact .left place t.process (.refl _) rfl rfl
    | generator place shared => exact .of_suites (suites_releaseGenerator place t.process)
  | entered number free current =>
    exact .of_suites (alike_tellHandles number t.process).suites.symm
  | detached number stage => exact .of_suites rfl
  | taken number rest stage take less part =>
    cases part with
    | suite place has =>
      obtain ⟨between, alike, same⟩ := dismissSuite_alike place t.process
      refine .left place between alike same ?_
      rw [Traffic.rest_of_dismantling stage]
      rfl
    | generator place has => exact .of_suites (suites_releaseGenerator place t.process)
    | _ => exact .of_suites rfl
  | returned number rest stage last => exact .of_suites rfl
  | acted act => exact .of_suites rfl

end CryptoProvider.Factory
