import CryptoProvider.Proofs.Traffic.Calls
import CryptoProvider.Proofs.Traffic.Release

/-!
The engine of an instance, for as long as the process runs. It is given back once, by the last one
who holds it: not before the reset of its instance has begun, not under an operation, and no later
than the reset and the operations begun on it are over.
-/

set_option autoImplicit false

namespace CryptoProvider.Factory

open Ledger

variable {ω : Type}

-- What is held in two places has two numbers.
theorem Shelf.place_eq {shelf : Shelf} (distinct : (numbers shelf.held).Nodup)
    {first second : Nat} {object other : Entry × Nat} (stands : shelf[first]? = some object)
    (kept : object.2 ≠ 0) (otherStands : shelf[second]? = some other) (otherKept : other.2 ≠ 0)
    (same : object.1.1 = other.1.1) : first = second := by
  have apart : shelf.Pairwise fun object other =>
      object.2 ≠ 0 → other.2 ≠ 0 → object.1.1 ≠ other.1.1 := by
    rw [numbers, Shelf.held, List.Nodup, List.pairwise_map, List.pairwise_filterMap] at distinct
    refine distinct.imp fun {object other} differ kept otherKept => ?_
    exact differ object.1 (if_neg kept) other.1 (if_neg otherKept)
  rw [List.pairwise_iff_getElem] at apart
  obtain ⟨bound, rfl⟩ := List.getElem?_eq_some_iff.mp stands
  obtain ⟨otherBound, rfl⟩ := List.getElem?_eq_some_iff.mp otherStands
  rcases Nat.lt_trichotomy first second with before | equal | after
  · exact absurd same (apart first second bound otherBound before kept otherKept)
  · exact equal
  · exact absurd same.symm (apart second first otherBound bound after otherKept kept)

/-- A suite stands in a place: its engine, and how many hold it. -/
def Shelved (s : Process ω) (place : Nat) (engine : EngineRef) (holders : Nat) : Prop :=
  ∃ shared, s.suites[place]? = some shared ∧ shared.suite.handle.engine = engine ∧
    shared.holders = holders

section

variable {s : Process ω} {place : Nat} {engine : EngineRef} {holders : Nat}

theorem Shelved.holders_suite (shelved : Shelved s place engine holders) :
    (Need.suite place).holders s = holders := by
  obtain ⟨shared, found, _, rfl⟩ := shelved
  rw [Need.holders, found]
  rfl

theorem Shelved.grown {next : Process ω} (shelved : Shelved s place engine holders)
    (more : s.suites <+: next.suites) : Shelved next place engine holders := by
  obtain ⟨shared, found, same⟩ := shelved
  obtain ⟨new, more⟩ := more
  refine ⟨shared, ?_, same⟩
  rw [← more, List.getElem?_append_left (List.getElem?_eq_some_iff.mp found).1, found]

theorem Shelved.modified {next : Process ω} {other : Nat} (change : Nat → Nat)
    (shelved : Shelved s place engine holders)
    (same : next.suites = s.suites.modify other fun shared =>
      { shared with holders := change shared.holders }) :
    Shelved next place engine (if other = place then change holders else holders) := by
  obtain ⟨shared, found, engine, rfl⟩ := shelved
  rw [Shelved, same, List.getElem?_modify, found]
  by_cases here : other = place <;> simp [here, engine]

theorem Shelved.engine_eq {other : EngineRef} {more : Nat} (shelved : Shelved s place engine holders)
    (others : Shelved s place other more) : engine = other := by
  obtain ⟨shared, found, rfl, _⟩ := shelved
  obtain ⟨_, same, rfl, _⟩ := others
  rw [found] at same
  cases same
  rfl

end

-- What an operation takes hold of was held by somebody else.
theorem Need.shelved_of_acquired (need : Need) {s : Process ω} {hold : Hold ω} {engine : EngineRef}
    (acquired : (need.acquire? s).1 = some hold) (same : hold.engine? = some engine) :
    ∃ place holders, need = .suite place ∧ holders ≠ 0 ∧ Shelved s place engine holders := by
  cases need with
  | suite place =>
    rw [acquire?_suite] at acquired
    rcases acquireSuite?_cases s place with failed | ⟨shared, found, held, taken⟩
    · rw [failed] at acquired
      cases acquired
    · rw [taken] at acquired
      cases acquired
      exact ⟨place, shared.holders, rfl, held, shared, found, Option.some.inj same, rfl⟩
  | generator place =>
    rw [acquire?_generator] at acquired
    obtain ⟨_, _, rfl⟩ := Option.map_eq_some_iff.mp acquired
    cases same

theorem stock_alike {s other : Process ω} (alike : Process.Alike s other) : stock s = stock other := by
  rw [stock, stock, suiteShelf, suiteShelf, generatorShelf, generatorShelf, live?, live?,
    alike.suites, alike.generators, alike.current, alike.owned]

namespace Traffic

variable {t next : Traffic ω} {frame : List Entry} {place holders : Nat} {engine : EngineRef}

theorem InOrder.accounts (order : InOrder frame t) :
    Accounts (stock t.process ++ (t.rest.entries ++ frame)) t.process.toPlatform := by
  obtain ⟨_, _, _, _, _, _, _, sound⟩ := order.balanced
  exact sound.2.1

theorem InOrder.started (order : InOrder frame t) {shared : SharedSuite ω}
    (found : t.process.suites[place]? = some shared) : shared.suite.handle.started = true := by
  obtain ⟨_, _, _, _, _, _, _, sound⟩ := order.balanced
  exact sound.1.started shared (List.mem_of_getElem? found)

-- An operation in flight holds the suite that stands in its place.
theorem InOrder.shelved_of_flight (order : InOrder frame t) {held : Engine.Suite ω}
    (flies : Hold.suite place held ∈ t.flights) :
    ∃ holders, holders ≠ 0 ∧ Shelved t.process place held.handle.engine holders := by
  have unreleased := (order.holders_iff (.suite place)).mpr (.inr ⟨_, flies, rfl⟩)
  have flight : (place, held.handle.entry) ∈ t.flights.filterMap Hold.suiteFlight? :=
    List.mem_filterMap.mpr ⟨_, flies, rfl⟩
  obtain ⟨_, _, _, _, _, _, _, sound⟩ := order.balanced
  obtain ⟨_, shared, found, engine⟩ := sound.1.suite_of_flight (List.mem_append_right _ flight)
  have shelved : Shelved t.process place held.handle.engine shared.holders :=
    ⟨shared, found, engine, rfl⟩
  exact ⟨_, shelved.holders_suite ▸ unreleased, shelved⟩

-- One engine does not stand in two places that are held.
theorem InOrder.place_eq (order : InOrder frame t) {other more : Nat}
    (shelved : Shelved t.process place engine holders) (held : holders ≠ 0)
    (others : Shelved t.process other engine more) (othersHeld : more ≠ 0) : place = other := by
  have distinct := order.accounts.distinct
  rw [numbers, List.map_append, stock, List.map_append] at distinct
  obtain ⟨shared, found, same, rfl⟩ := shelved
  obtain ⟨another, stands, rfl, rfl⟩ := others
  have entry := Engine.Handle.entry_started (order.started found)
  have anotherEntry := Engine.Handle.entry_started (order.started stands)
  have here : (suiteShelf t.process)[place]? = some shared.view := by
    rw [suiteShelf, List.getElem?_map, found, Option.map_some]
  have there : (suiteShelf t.process)[other]? = some another.view := by
    rw [suiteShelf, List.getElem?_map, stands, Option.map_some]
  refine Shelf.place_eq (List.nodup_append.mp (List.nodup_append.mp distinct).1).1
    here held there othersHeld ?_
  change shared.suite.handle.entry.1 = another.suite.handle.entry.1
  rw [entry, anotherEntry, same]

-- A suite that somebody holds is in stock, and its engine runs.
theorem InOrder.stocked (order : InOrder frame t) (shelved : Shelved t.process place engine holders)
    (held : holders ≠ 0) : (engine.number, .engineStarted engine) ∈ stock t.process := by
  obtain ⟨shared, found, rfl, rfl⟩ := shelved
  rw [← Engine.Handle.entry_started (order.started found)]
  refine List.mem_append_left _ (List.mem_filterMap.mpr ⟨shared.view, ?_, if_neg held⟩)
  exact List.mem_map_of_mem (List.mem_of_getElem? found)

-- An engine that somebody holds was not given back.
theorem InOrder.givenBack_of_held (order : InOrder frame t)
    (shelved : Shelved t.process place engine holders) (held : holders ≠ 0) :
    givenBack engine t.process.calls = [] := by
  have lived := order.accounts.lived _ (List.mem_append_left _ (order.stocked shelved held))
  rw [← givenBack_life]
  exact givenBack_of_started lived

-- A thing that was let go goes into the frame, which nothing touches.
theorem InOrder.retire (order : InOrder frame t) {number : Nat}
    (absent : number ∉ numbers (stock t.process ++ (t.rest.entries ++ frame)))
    (called : t.process.life number ≠ []) :
    InOrder ((number, .retired (t.process.life number)) :: frame) t := by
  obtain ⟨owned, instances, suites, generators, contents, named, counted, standing, books⟩ :=
    order.balanced
  have issued : number < t.process.next :=
    Nat.lt_of_not_le fun late => called (books.1.unused number late)
  have retired := books.1.retire absent issued
  have regroup : ∀ entry : Entry, (entry :: (stock t.process ++ (t.rest.entries ++ frame))).Perm
      (stock t.process ++ (t.rest.entries ++ entry :: frame)) := fun _ =>
    List.perm_middle.symm.trans (List.perm_middle.symm.append_left _)
  exact ⟨⟨owned, instances, suites, generators, contents, named, counted,
    ⟨standing.suites, standing.generators, standing.live, standing.whole, standing.started,
      standing.current, standing.owned, standing.instances⟩, retired.perm (regroup _), books.2⟩,
    order.whole, order.staged⟩

end Traffic

/-- Whether the engine in a place is held and runs, or was given back by the last one who held it. -/
inductive Fate (t : Traffic ω) (place : Nat) (engine : EngineRef) : Prop where
  | running (holders : Nat) (held : holders ≠ 0)
      (shelved : Shelved t.process place engine holders) (order : t.InOrder [])
  | ended (shelved : Shelved t.process place engine 0) (life : List Call)
      (ends : givenBack engine life = [.engineFinish engine, .engineFree engine])
      (order : t.InOrder [(engine.number, .retired life)])

section

variable {t next : Traffic ω} {place holders : Nat} {engine : EngineRef}

-- Among all that a move can do to a suite, only its last holder's leave is its end.
theorem Restocked.shelved (restocked : Restocked t next)
    (shelved : Shelved t.process place engine holders) :
    (∃ more, (more = 0 ↔ holders = 0) ∧ Shelved next.process place engine more) ∨
      holders = 1 ∧ ∃ between, Process.Alike t.process between ∧
        next.process = (releaseSuite place between).2 ∧ next.rest.entries = t.rest.entries := by
  cases restocked with
  | grown more => exact .inl ⟨holders, .rfl, shelved.grown more⟩
  | taken other held same =>
    refine .inl ⟨_, ?_, shelved.modified (· + 1) same⟩
    by_cases here : other = place
    · rw [here, shelved.holders_suite] at held
      simp [here, held]
    · simp [here]
  | left other between alike same entries =>
    have suites := suites_releaseSuite other between
    rw [← same, ← alike.suites] at suites
    by_cases last : other = place ∧ holders = 1
    · obtain ⟨rfl, last⟩ := last
      exact .inr ⟨last, between, alike, same, entries⟩
    · refine .inl ⟨_, ?_, shelved.modified (· - 1) suites⟩
      split <;> omega

namespace Fate

theorem of_last {between : Process ω} (order : t.InOrder []) (after : next.InOrder [])
    (shelved : Shelved t.process place engine 1) (alike : Process.Alike t.process between)
    (left : next.process = (releaseSuite place between).2)
    (entries : next.rest.entries = t.rest.entries) : Fate next place engine := by
  have stays : Shelved next.process place engine 0 := by
    have suites := suites_releaseSuite place between
    rw [← left, ← alike.suites] at suites
    simpa using shelved.modified (· - 1) suites
  have unreleased := order.givenBack_of_held shelved Nat.one_ne_zero
  obtain ⟨shared, found, rfl, last⟩ := shelved
  have started := order.started found
  rw [alike.suites] at found
  have ends : givenBack shared.suite.handle.engine next.process.calls =
      [.engineFinish shared.suite.handle.engine, .engineFree shared.suite.handle.engine] := by
    rw [left, givenBack_of_last found last started, ← alike.platform.calls, unreleased]
    rfl
  have stocked := stock_of_last found last
  rw [← left, Engine.Handle.entry_started started, ← stock_alike alike] at stocked
  have distinct := order.accounts.distinct
  rw [← entries] at distinct
  have absent := (List.nodup_cons.mp
    (((stocked.append_right _).map Prod.fst).nodup_iff.mp distinct)).1
  rw [← givenBack_life] at ends
  refine .ended stays _ ends (after.retire absent fun silent => ?_)
  rw [silent] at ends
  cases ends

theorem advance [Memory ω] (fate : Fate t place engine) (advance : Advance t next) :
    Fate next place engine := by
  have restocked := advance.restocked
  cases fate with
  | ended shelved life ends order =>
    obtain ⟨more, unheld, stays⟩ := (restocked.shelved shelved).resolve_right (by simp)
    obtain rfl := unheld.mpr rfl
    exact .ended stays life ends (order.advance advance)
  | running holders held shelved order =>
    have after := order.advance advance
    rcases restocked.shelved shelved with ⟨more, unheld, stays⟩ | ⟨rfl, between, alike, left, entries⟩
    · exact .running more (mt unheld.mp held) stays after
    · exact .of_last order after shelved alike left entries

theorem after [Memory ω] (fate : Fate t place engine) (moves : List (Move ω)) :
    Fate (Traffic.after moves t) place engine :=
  Traffic.after_induction (fun u => Fate u place engine)
    (fun move _ fate => fate.advance (move.advance _)) moves fate

theorem inOrder (fate : Fate t place engine) : ∃ frame, t.InOrder frame := by
  cases fate with
  | running _ _ _ order => exact ⟨_, order⟩
  | ended _ _ _ order => exact ⟨_, order⟩

-- As long as somebody holds the suite, its engine runs; then it was given back.
theorem cases (fate : Fate t place engine) :
    (∃ holders, holders ≠ 0 ∧ Shelved t.process place engine holders ∧
      givenBack engine t.process.calls = []) ∨
    Shelved t.process place engine 0 ∧
      givenBack engine t.process.calls = [.engineFinish engine, .engineFree engine] := by
  cases fate with
  | running holders held shelved order =>
    exact .inl ⟨holders, held, shelved, order.givenBack_of_held shelved held⟩
  | ended shelved life ends order =>
    refine .inr ⟨shelved, ?_⟩
    have kept := order.accounts.lived (engine.number, .retired life)
      (List.mem_append_right _ (List.mem_append_right _ List.mem_cons_self))
    have same : t.process.life engine.number = life := kept
    rw [← givenBack_life, same, ends]

-- Nobody holds the engine in another place.
theorem place_eq {other more : Nat} (fate : Fate t place engine)
    (others : Shelved t.process other engine more) (held : more ≠ 0) : other = place := by
  cases fate with
  | running holders kept shelved order => exact order.place_eq others held shelved kept
  | ended shelved life ends order =>
    have stocked : engine.number ∈ (stock t.process).map Prod.fst :=
      List.mem_map_of_mem (order.stocked others held)
    have distinct := order.accounts.distinct
    rw [numbers, List.map_append] at distinct
    refine absurd rfl ((List.nodup_append.mp distinct).2.2 _ stocked engine.number ?_)
    rw [List.map_append]
    exact List.mem_append_right _ List.mem_cons_self

end Fate

end

/-- The engine of the alternate suite that an instance has. -/
def suiteEngine? (s : Process ω) (number : Nat) : Option EngineRef :=
  (subsystems? s number).bind fun owned => owned.suite.bind fun place =>
    s.suites[place]?.map fun shared => shared.suite.handle.engine

namespace Traffic

/-- An instance was reset, and the reset has returned. -/
def Returned (t : Traffic ω) (number : Nat) : Prop :=
  isReset t.process number = true ∧ ∀ rest, t.teardown ≠ some (.dismantling number rest)

theorem returned_of_free {t : Traffic ω} {number : Nat} (free : t.teardown = none)
    (gone : isReset t.process number = true) : t.Returned number := by
  refine ⟨gone, fun rest stage => ?_⟩
  cases free.symm.trans stage

/-- An operation in flight holds an engine. -/
def Uses (t : Traffic ω) (engine : EngineRef) : Prop :=
  some engine ∈ t.flights.map Hold.engine?

/-- What can be said of the engine of an instance at any time from when the instance is there. -/
structure Lifetime [Memory ω] (t : Traffic ω) (number : Nat) (engine : EngineRef) : Prop where
  /-- It is given back once at most, finished first and then freed. -/
  once : givenBack engine t.process.calls = [] ∨
    givenBack engine t.process.calls = [.engineFinish engine, .engineFree engine]
  /-- Not before the reset of its instance has begun. -/
  owned : isReset t.process number = false → givenBack engine t.process.calls = []
  /-- Not as long as an operation uses it. -/
  used : t.Uses engine → givenBack engine t.process.calls = []
  /-- As soon as the reset has returned and no operation uses it. -/
  returned : t.Returned number → ¬ t.Uses engine →
    givenBack engine t.process.calls = [.engineFinish engine, .engineFree engine]
  /-- Within the reset, when its turn has come and no operation uses it. -/
  within : ∀ rest, t.teardown = some (.dismantling number rest) → rest.suite = none →
    ¬ t.Uses engine → givenBack engine t.process.calls = [.engineFinish engine, .engineFree engine]
  /-- An operation begins on it through a product of its own instance only. -/
  begun : ∀ product hold, ((Move.begin product).run t).flights = hold :: t.flights →
    hold.engine? = some engine → ∃ made, t.products[product]? = some (number, made)

variable {t : Traffic ω} {frame : List Entry} {number place : Nat} {engine : EngineRef}

-- An instance that keeps its suite was not reset, or its reset is about to take it down.
theorem Keeps.kept {need : Need} (keeps : t.Keeps number need) :
    isReset t.process number = false ∨
      ∃ rest, t.teardown = some (.dismantling number rest) ∧ need.PartOf rest := by
  obtain ⟨owned, parts, part⟩ := keeps
  by_cases stage : ∃ other rest, t.teardown = some (.dismantling other rest)
  · obtain ⟨other, rest, stage⟩ := stage
    rw [parts_of_dismantling stage] at parts
    cases parts
    exact .inr ⟨owned, stage, part⟩
  · simp only [not_exists] at stage
    rw [parts_of_slot stage] at parts
    obtain ⟨other, _, named⟩ := Option.bind_eq_some_iff.mp parts
    obtain ⟨_, owns, same⟩ := Option.map_eq_some_iff.mp named
    cases same
    refine .inl ?_
    rw [isReset, owns]
    rfl

-- Once the reset has returned, nobody keeps what an instance had.
theorem Sole.unkept {need : Need} (sole : t.Sole number need) (returned : t.Returned number)
    (other : Nat) : ¬ t.Keeps other need := by
  intro keeps
  obtain rfl := sole.keeper other keeps
  rcases keeps.kept with alive | ⟨rest, stage, _⟩
  · rw [returned.1] at alive
    cases alive
  · exact returned.2 rest stage

theorem InOrder.uses_of_inFlight (order : InOrder frame t) {holders : Nat}
    (shelved : Shelved t.process place engine holders) :
    t.InFlight (.suite place) → t.Uses engine := by
  rintro ⟨hold, flies, need⟩
  cases hold with
  | suite other held =>
    cases need
    obtain ⟨_, _, others⟩ := order.shelved_of_flight flies
    exact List.mem_map.mpr ⟨_, flies, congrArg some (others.engine_eq shelved)⟩
  | generator other shared => cases need

theorem acquired_of_begun [Memory ω] {product : Nat} {hold : Hold ω}
    (begun : ((Move.begin product).run t).flights = hold :: t.flights) :
    ∃ need, (t.products[product]?.bind fun issued => issued.2.need?) = some need ∧
      (need.acquire? t.process).1 = some hold := by
  cases needs : t.products[product]?.bind fun issued => issued.2.need? with
  | none =>
    have still : (Move.begin product).run t = t := by simp only [Move.run, needs]
    rw [still] at begun
    exact absurd begun.symm (List.cons_ne_self _ _)
  | some need =>
    rw [run_begin needs] at begun
    have same : (need.acquire? t.process).1.toList ++ t.flights = [hold] ++ t.flights := begun
    exact ⟨need, rfl, Option.toList_eq_singleton_iff.mp (List.append_cancel_right same)⟩

theorem lifetime_of_fate [Memory ω] {owned : Subsystems ω} (fate : Fate t place engine)
    (belongs : t.Belongs number (.suite place)) (part : owned.suite = some place)
    (remains : ∀ now, subsystems? t.process number = some now → now = owned) :
    t.Lifetime number engine := by
  obtain ⟨frame, order⟩ := fate.inOrder
  -- Whoever holds the suite keeps the engine; with nobody left it was given back.
  have ended : (∀ other, ¬ t.Keeps other (.suite place)) → ¬ t.Uses engine →
      givenBack engine t.process.calls = [.engineFinish engine, .engineFree engine] := by
    intro unkept unused
    rcases fate.cases with ⟨holders, held, shelved, _⟩ | ⟨_, ends⟩
    · rw [← shelved.holders_suite] at held
      rcases (order.holders_iff _).mp held with ⟨other, keeps⟩ | flies
      · exact absurd keeps (unkept other)
      · exact absurd (order.uses_of_inFlight shelved flies) unused
    · exact ends
  refine ⟨?_, fun alive => ?_, ?_, fun returned => ended (belongs.unkept returned),
    fun rest stage taken => ended fun other keeps => ?_, ?_⟩
  · rcases fate.cases with ⟨_, _, _, kept⟩ | ⟨_, ends⟩
    · exact .inl kept
    · exact .inr ends
  · obtain ⟨now, owns⟩ : ∃ now, subsystems? t.process number = some now := by
      rw [isReset, Option.isNone_eq_false_iff, Option.isSome_iff_exists] at alive
      exact alive
    have same := remains now owns
    subst same
    have keeps : t.Keeps number (.suite place) := keeps_of_owns order owns part
    have held := (order.holders_iff _).mpr (.inl ⟨number, keeps⟩)
    rcases fate.cases with ⟨_, _, _, kept⟩ | ⟨shelved, _⟩
    · exact kept
    · exact absurd shelved.holders_suite held
  · intro used
    obtain ⟨hold, flies, same⟩ := List.mem_map.mp used
    cases hold with
    | suite other held =>
      obtain ⟨holders, kept, shelved⟩ := order.shelved_of_flight flies
      cases same
      exact order.givenBack_of_held shelved kept
    | generator other shared => cases same
  · obtain ⟨kept, parts, part⟩ := keeps
    rw [parts_of_dismantling stage] at parts
    cases parts
    cases taken.symm.trans part
  · intro product hold begun same
    obtain ⟨need, needs, acquired⟩ := acquired_of_begun begun
    obtain ⟨other, holders, rfl, held, shelved⟩ := need.shelved_of_acquired acquired same
    obtain rfl := fate.place_eq shelved held
    obtain ⟨⟨issuer, made⟩, found, needs⟩ := Option.bind_eq_some_iff.mp needs
    obtain rfl := belongs.issuer issuer made (List.mem_of_getElem? found) needs
    exact ⟨made, found⟩

theorem fate_of_owns {owned : Subsystems ω} {shared : SharedSuite ω} (order : t.InOrder [])
    (owns : subsystems? t.process number = some owned) (part : owned.suite = some place)
    (found : t.process.suites[place]? = some shared) :
    Fate t place shared.suite.handle.engine := by
  have keeps : t.Keeps number (.suite place) := keeps_of_owns order owns part
  have shelved : Shelved t.process place shared.suite.handle.engine shared.holders :=
    ⟨shared, found, rfl, rfl⟩
  have held := (order.holders_iff _).mpr (.inl ⟨number, keeps⟩)
  rw [shelved.holders_suite] at held
  exact .running _ held shelved order

/-- However operations, resets and demands overlap, the engine of an instance is given back once, by
whoever holds it last: never before the reset of its instance has begun, never under an operation, and
as soon as both are over. No operation begins on it through a product of another instance. -/
theorem lifetime_of_engine [Memory ω] (outside : ω) (hosts : List Locking.Host)
    (before later : List (Move ω)) (number : Nat) (engine : EngineRef)
    (has : suiteEngine? (after before (launch outside hosts)).process number = some engine) :
    (after (before ++ later) (launch outside hosts)).Lifetime number engine := by
  obtain ⟨owned, owns, inside⟩ := Option.bind_eq_some_iff.mp has
  obtain ⟨place, part, inside⟩ := Option.bind_eq_some_iff.mp inside
  obtain ⟨shared, found, rfl⟩ := Option.map_eq_some_iff.mp inside
  have order := (InOrder.launch outside hosts).after before
  have attributed := attributed_after (InOrder.launch outside hosts)
    (fun _ _ issued => absurd issued List.not_mem_nil) before
  have keeps : (after before (launch outside hosts)).Keeps number (.suite place) :=
    keeps_of_owns order owns part
  rw [after_append]
  refine lifetime_of_fate ((fate_of_owns order owns part found).after later)
    ((keeps.belongs order attributed).after order later) part fun now still => ?_
  have had := (later_after later (after before (launch outside hosts))).owned number
    (bound_of_owns owns) now still
  exact Option.some.inj (had.symm.trans owns)

end Traffic

/-- An operation on a product of the engine begins, then the factory is reset, and the reset returns. -/
def Willing.overlapping : List (Move Unit) :=
  .dispatch 0 (.hash .gost) :: .begin 0 :: Traffic.wholeReset

-- The engine outlives the reset until the operation ends.
theorem lifetime_of_engine_overlapping :
    suiteEngine? (Traffic.after [.demand (pure Willing.options)]
      (Traffic.launch () [Willing.host])).process 0 = some ⟨7, "gost"⟩ ∧
    givenBack ⟨7, "gost"⟩ (Traffic.after ([.demand (pure Willing.options)] ++ Willing.overlapping)
      (Traffic.launch () [Willing.host])).process.calls = [] ∧
    givenBack ⟨7, "gost"⟩ (Traffic.after
      ([.demand (pure Willing.options)] ++ (Willing.overlapping ++ [.finish 0]))
      (Traffic.launch () [Willing.host])).process.calls =
        [.engineFinish ⟨7, "gost"⟩, .engineFree ⟨7, "gost"⟩] := by
  have lifetime := fun later => Traffic.lifetime_of_engine () [Willing.host]
    [.demand (pure Willing.options)] later 0 ⟨7, "gost"⟩ rfl
  have uses : (Traffic.after ([.demand (pure Willing.options)] ++ Willing.overlapping)
      (Traffic.launch () [Willing.host])).flights.map Hold.engine? = [some ⟨7, "gost"⟩] := rfl
  have idle : (Traffic.after ([.demand (pure Willing.options)] ++ (Willing.overlapping ++ [.finish 0]))
      (Traffic.launch () [Willing.host])).flights = [] := rfl
  refine ⟨rfl, (lifetime _).used ?_, (lifetime _).returned (Traffic.returned_of_free rfl rfl) ?_⟩
  · rw [Traffic.Uses, uses]
    exact List.mem_singleton_self _
  · rw [Traffic.Uses, idle]
    exact List.not_mem_nil

end CryptoProvider.Factory
