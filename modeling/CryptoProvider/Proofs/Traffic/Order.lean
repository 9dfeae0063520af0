import CryptoProvider.Proofs.Factory.Passing
import CryptoProvider.Proofs.Traffic.Moves
import Mathlib.Data.List.Perm.Basic

/-!
The books stay in order whatever overlaps. A suite or a generator is held by the live instance, by
the reset that takes it down, and by the operations in flight, and every move keeps the count; so
somebody can begin an operation on it exactly as long as one of them holds it.
-/

set_option autoImplicit false

namespace CryptoProvider.Factory

open Ledger

variable {ω : Type}

section

variable {hand : Custody ω} {contents : Slots ω} {s t : Process ω}

theorem Sound.alike (sound : Sound hand contents s) (alike : Process.Alike s t) :
    Sound hand contents t := by
  obtain ⟨standing, accounts, same⟩ := sound
  have suites : suiteShelf t = suiteShelf s := by rw [suiteShelf, ← alike.suites, suiteShelf]
  have generators : generatorShelf t = generatorShelf s := by
    rw [generatorShelf, ← alike.generators, generatorShelf]
  have live : live? t = live? s := by rw [live?, live?, alike.current, alike.owned]
  refine ⟨⟨?_, ?_, ?_, ?_, ?_, ?_, ?_, ?_⟩, ?_, ?_⟩
  · rw [suites, live]
    exact standing.suites
  · rw [generators, live]
    exact standing.generators
  · rw [← alike.owned, ← alike.current]
    exact standing.live
  · rw [live]
    exact standing.whole
  · rw [← alike.suites]
    exact standing.started
  · exact alike.current.symm.trans standing.current
  · exact live.trans standing.owned
  · exact alike.length.symm.trans standing.instances
  · rw [stock, suites, generators, live]
    exact accounts.transfer alike.platform.calls.symm alike.platform.next.symm
  · exact alike.platform.slots.symm.trans same

-- It does not matter in which order the operations in flight are counted.
theorem Sound.perm {suites generators : List Flight} (sound : Sound hand contents s)
    (sameSuites : hand.suites.Perm suites) (sameGenerators : hand.generators.Perm generators) :
    Sound { hand with suites, generators } contents s :=
  ⟨⟨sound.1.suites.perm sameSuites, sound.1.generators.perm sameGenerators, sound.1.live,
    sound.1.whole, sound.1.started, sound.1.current, sound.1.owned, sound.1.instances⟩, sound.2⟩

-- What an operation holds is the suite that stands in its place on the shelf.
theorem Standing.suite_of_flight {place : Nat} {held : Engine.Suite ω} (standing : Standing hand s)
    (flies : (place, held.handle.entry) ∈ hand.suites) :
    held.handle.started = true ∧ ∃ shared, s.suites[place]? = some shared ∧
      shared.suite.handle.engine = held.handle.engine := by
  have shelved := standing.suites.entries _ flies
  rw [suiteShelf, List.getElem?_map, Option.map_map] at shelved
  obtain ⟨shared, found, same⟩ := Option.map_eq_some_iff.mp shelved
  change shared.suite.handle.entry = held.handle.entry at same
  rw [Engine.Handle.entry_started (standing.started shared (List.mem_of_getElem? found))] at same
  cases started : held.handle.started with
  | true =>
    rw [Engine.Handle.entry_started started] at same
    injection (Prod.mk.inj same).2 with engine
    exact ⟨rfl, shared, found, engine⟩
  | false =>
    rw [Engine.Handle.entry_found started] at same
    cases (Prod.mk.inj same).2

end

namespace Hold

def suiteFlight? : Hold ω → Option Flight
  | suite place held => some (place, held.handle.entry)
  | generator _ _ => none

def generatorFlight? : Hold ω → Option Flight
  | suite _ _ => none
  | generator place shared => some (place, shared.view.1)

end Hold

/-- With these operations in flight, with parts in hand that are to be taken down, and with a frame
that nothing touches, the books are in order. -/
def Balanced (frame : List Entry) (flights : List (Hold ω)) (rest : Subsystems ω)
    (current : Option Nat) (s : Process ω) : Prop :=
  ∃ owned instances suites generators contents,
    suites.map Prod.fst = rest.suite.toList ∧ generators.map Prod.fst = rest.generator.toList ∧
    Sound ⟨current, owned, instances, suites ++ flights.filterMap Hold.suiteFlight?,
      generators ++ flights.filterMap Hold.generatorFlight?, rest.entries ++ frame⟩ contents s

section

variable {frame : List Entry} {flights : List (Hold ω)} {rest : Subsystems ω}
  {current : Option Nat}

theorem Balanced.current_eq {s : Process ω} (balanced : Balanced frame flights rest current s) :
    s.current = current := by
  obtain ⟨_, _, _, _, _, _, _, sound⟩ := balanced
  exact sound.1.current

theorem Balanced.alike {s t : Process ω} (balanced : Balanced frame flights rest current s)
    (alike : Process.Alike s t) : Balanced frame flights rest current t := by
  obtain ⟨owned, instances, suites, generators, contents, named, counted, sound⟩ := balanced
  exact ⟨owned, instances, suites, generators, contents, named, counted, sound.alike alike⟩

theorem Balanced.perm {s : Process ω} {others : List (Hold ω)}
    (balanced : Balanced frame flights rest current s) (same : flights.Perm others) :
    Balanced frame others rest current s := by
  obtain ⟨owned, instances, suites, generators, contents, named, counted, sound⟩ := balanced
  exact ⟨owned, instances, suites, generators, contents, named, counted,
    sound.perm ((same.filterMap _).append_left _) ((same.filterMap _).append_left _)⟩

theorem Balanced.lift {α : Type} {program : StateM (Process ω) α}
    (spec : ∀ hand contents, (∀ hold ∈ flights, ∀ flight, hold.suiteFlight? = some flight →
      flight ∈ hand.suites) → (∀ hold ∈ flights, ∀ flight, hold.generatorFlight? = some flight →
      flight ∈ hand.generators) →
      Ensures (Sound hand contents) program fun _ => Sound hand contents) :
    Ensures (Balanced frame flights rest current) program fun _ =>
      Balanced frame flights rest current := by
  rintro s ⟨owned, instances, suites, generators, contents, named, counted, sound⟩
  refine ⟨owned, instances, suites, generators, contents, named, counted,
    spec _ _ ?_ ?_ s sound⟩
  · intro hold flies flight same
    exact List.mem_append_right _ (List.mem_filterMap.mpr ⟨hold, flies, same⟩)
  · intro hold flies flight same
    exact List.mem_append_right _ (List.mem_filterMap.mpr ⟨hold, flies, same⟩)

theorem balanced_acquire? (need : Need) :
    Ensures (Balanced frame flights rest current) need.acquire? fun hold? =>
      Balanced frame (hold?.toList ++ flights) rest current := by
  rintro s ⟨owned, instances, suites, generators, contents, named, counted, sound⟩
  cases need with
  | suite place =>
    have acquired := sound_acquireSuite? place s sound
    rw [Need.acquire?_suite]
    cases answer : (acquireSuite? place s).1 with
    | none =>
      rw [answer] at acquired
      exact ⟨owned, instances, suites, generators, contents, named, counted, acquired⟩
    | some held =>
      rw [answer] at acquired
      exact ⟨owned, instances, suites, generators, contents, named, counted,
        acquired.2.perm List.perm_middle.symm (.refl _)⟩
  | generator place =>
    have acquired := sound_acquireGenerator? place s sound
    rw [Need.acquire?_generator]
    cases answer : (acquireGenerator? place s).1 with
    | none =>
      rw [answer] at acquired
      exact ⟨owned, instances, suites, generators, contents, named, counted, acquired⟩
    | some shared =>
      rw [answer] at acquired
      exact ⟨owned, instances, suites, generators, contents, named, counted,
        acquired.perm (.refl _) List.perm_middle.symm⟩

theorem balanced_release (hold : Hold ω) :
    Ensures (Balanced frame (hold :: flights) rest current) hold.release fun _ =>
      Balanced frame flights rest current := by
  rintro s ⟨owned, instances, suites, generators, contents, named, counted, sound⟩
  cases hold with
  | suite place held =>
    have front : (suites ++ (.suite place held :: flights).filterMap Hold.suiteFlight?).Perm
        ((place, held.handle.entry) :: (suites ++ flights.filterMap Hold.suiteFlight?)) :=
      List.perm_middle
    have taken : Sound (Custody.addSuite ⟨current, owned, instances,
        suites ++ flights.filterMap Hold.suiteFlight?,
        generators ++ flights.filterMap Hold.generatorFlight?, rest.entries ++ frame⟩
          (place, held.handle.entry)) contents s := sound.perm front (.refl _)
    exact ⟨owned, instances, suites, generators, contents, named, counted,
      sound_releaseSuite s taken⟩
  | generator place shared =>
    have front : (generators ++
        (.generator place shared :: flights).filterMap Hold.generatorFlight?).Perm
        ((place, shared.view.1) :: (generators ++ flights.filterMap Hold.generatorFlight?)) :=
      List.perm_middle
    have taken : Sound (Custody.addGenerator ⟨current, owned, instances,
        suites ++ flights.filterMap Hold.suiteFlight?,
        generators ++ flights.filterMap Hold.generatorFlight?, rest.entries ++ frame⟩
          (place, shared.view.1)) contents s := sound.perm (.refl _) front
    exact ⟨owned, instances, suites, generators, contents, named, counted,
      sound_releaseGenerator s taken⟩

theorem balanced_ask {hold : Hold ω} (flies : hold ∈ flights) (count : Nat) :
    Ensures (Balanced frame flights rest current) (hold.ask count) fun _ =>
      Balanced frame flights rest current := by
  refine Balanced.lift fun hand contents suites generators => ?_
  cases hold with
  | suite place held =>
    intro s sound
    have flight := suites _ flies _ rfl
    have started := (sound.1.suite_of_flight flight).1
    exact Sound.lift_held (fun _ standing => List.mem_append_left _ (standing.suites.mem_held flight))
      (fun _ => Engine.Suite.books_requestKey started _ _) s sound
  | generator place shared =>
    have flight := generators _ flies _ rfl
    have told : Ensures (Sound hand contents) (Process.onPlatform
        (Platform.record shared.generator.reported (.generate shared.number count))) fun _ =>
        Sound hand contents :=
      Sound.lift_held (fun _ standing => List.mem_append_right _
          (List.mem_append_left _ (standing.generators.mem_held flight)))
        fun _ => Books.record_one (Leads.use_generator (by simp [usesGenerator])) rfl
    exact Ensures.bind told fun _ => Ensures.bind Sound.consult fun _ => Ensures.pure fun _ sound => sound

theorem balanced_resume {hold : Hold ω} (flies : hold ∈ flights) :
    Ensures (Balanced frame flights rest current) hold.resume fun _ =>
      Balanced frame flights rest current := by
  refine Balanced.lift fun hand contents suites generators => ?_
  cases hold with
  | suite place held =>
    intro s sound
    have flight := suites _ flies _ rfl
    have started := (sound.1.suite_of_flight flight).1
    exact Sound.lift_held (fun _ standing => List.mem_append_left _ (standing.suites.mem_held flight))
      (fun _ => Engine.Handle.books_use started (by simp [usesEngine]) rfl) s sound
  | generator place shared =>
    have flight := generators _ flies _ rfl
    exact Sound.lift_held (fun _ standing => List.mem_append_right _
        (List.mem_append_left _ (standing.generators.mem_held flight)))
      fun _ => Books.record_one (Leads.use_generator (by simp [usesGenerator])) rfl

-- A new instance takes over what its construction brought up.
theorem balanced_construct [Memory ω] (options : Options ω) :
    Ensures (Balanced frame flights .bare none) (construct options) fun number =>
      Balanced frame flights .bare (some number) := by
  rintro s ⟨owned, instances, suites, generators, contents, named, counted, sound⟩
  obtain rfl := List.map_eq_nil_iff.mp named
  obtain rfl := List.map_eq_nil_iff.mp counted
  obtain ⟨whole, after, laden, _, load, built⟩ := sound_build options s sound
  have adopted := built.adopt whole load rfl
  obtain ⟨_, _, _, _, rfl⟩ := load
  have number : (construct options s).1 = instances := built.1.instances
  rw [number]
  exact ⟨_, _, [], [], after, rfl, rfl, adopted⟩

theorem balanced_detach {s : Process ω} {number : Nat} {owned : Subsystems ω}
    (balanced : Balanced frame flights .bare current s) (isCurrent : s.current = some number)
    (lives : subsystems? s number = some owned) :
    Balanced frame flights owned none (detach number s) := by
  obtain ⟨live, instances, suites, generators, contents, named, counted, sound⟩ := balanced
  obtain rfl := List.map_eq_nil_iff.mp named
  obtain rfl := List.map_eq_nil_iff.mp counted
  obtain ⟨laden, ⟨suites, generators, named, counted, rfl⟩, detached⟩ :=
    sound.detach isCurrent lives
  exact ⟨none, instances, suites, generators, contents, named, counted, detached⟩

theorem Subsystems.Whole.of_bare : (Subsystems.bare (ω := ω)).Whole where
  hardware _ has := by cases has
  random _ has := by cases has
  bridge _ has := by cases has

theorem Subsystems.Whole.taken {take : StateM (Process ω) Unit} {less : Subsystems ω}
    (whole : rest.Whole) (part : rest.Taken take less) : less.Whole := by
  cases part with
  | suite place has => exact ⟨whole.hardware, whole.random, whole.bridge⟩
  | hardware hardware has => exact ⟨by simp, whole.random, whole.bridge⟩
  | generator place has => exact ⟨whole.hardware, whole.random, whole.bridge⟩
  | random random has earlier => exact ⟨whole.hardware, by simp, whole.bridge⟩
  | bridge bridge has => exact ⟨whole.hardware, whole.random, by simp⟩

theorem balanced_taken {take : StateM (Process ω) Unit} {less : Subsystems ω}
    (whole : rest.Whole) (part : rest.Taken take less) :
    Ensures (Balanced frame flights rest current) take fun _ =>
      Balanced frame flights less current := by
  rintro s ⟨owned, instances, suites, generators, contents, named, counted, sound⟩
  cases part with
  | suite place has =>
    rw [has] at named
    obtain ⟨⟨place, entry⟩, rfl, rfl⟩ := List.map_eq_singleton_iff.mp named
    exact ⟨owned, instances, [], generators, contents, rfl, counted, sound_dismissSuite s sound⟩
  | hardware hardware has =>
    have dropped : Ensures (Sound (Custody.addEntries ⟨current, owned, instances,
        suites ++ flights.filterMap Hold.suiteFlight?,
        generators ++ flights.filterMap Hold.generatorFlight?,
        randomEntries rest.hardwareRandom ++ frame⟩ hardware.entries) contents)
        (Process.onPlatform hardware.drop) fun _ => Sound _ { contents with transport := none } :=
      Sound.lift_spend fun _ => Command.Hardware.books_drop (whole.hardware hardware has)
    rw [Subsystems.entries, has, List.append_assoc] at sound
    exact ⟨owned, instances, suites, generators, _, named, counted, dropped s sound⟩
  | generator place has =>
    rw [has] at counted
    obtain ⟨⟨place, entry⟩, rfl, rfl⟩ := List.map_eq_singleton_iff.mp counted
    exact ⟨owned, instances, suites, [], contents, named, rfl, sound_releaseGenerator s sound⟩
  | random random has earlier =>
    have dropped : Ensures (Sound (Custody.addEntries ⟨current, owned, instances,
        suites ++ flights.filterMap Hold.suiteFlight?,
        generators ++ flights.filterMap Hold.generatorFlight?, frame⟩ [random.handle.entry]) contents)
        (Process.onPlatform random.drop) fun _ => Sound _ contents :=
      Sound.lift_spend fun _ => Engine.Handle.books_drop random.handle
    rw [Subsystems.entries, has, earlier] at sound
    refine ⟨owned, instances, suites, generators, contents, named, counted, ?_⟩
    rw [Subsystems.entries, earlier]
    exact dropped s sound
  | bridge bridge has =>
    have dropped : Ensures (Sound ⟨current, owned, instances,
        suites ++ flights.filterMap Hold.suiteFlight?,
        generators ++ flights.filterMap Hold.generatorFlight?, rest.entries ++ frame⟩ contents)
        (Process.onPlatform (discard bridge.teardown)) fun _ => Sound _ (bridge.dismantle contents) :=
      Sound.lift_same fun _ => Locking.Bridge.books_teardown bridge
    exact ⟨owned, instances, suites, generators, _, named, counted, dropped s sound⟩

end

namespace Traffic

/-- A reset has the instance in its slot until it takes it out; then no instance is current. -/
structure Staged (t : Traffic ω) : Prop where
  entered : ∀ number, t.teardown = some (.entered number) → t.process.current = some number
  dismantling : ∀ number rest, t.teardown = some (.dismantling number rest) →
    t.process.current = none

/-- The books are in order between two moves, whatever is going on; the frame is left alone. -/
structure InOrder (frame : List Entry) (t : Traffic ω) : Prop where
  balanced : Balanced frame t.flights t.rest t.process.current t.process
  whole : t.rest.Whole
  staged : t.Staged

variable {frame : List Entry} {t next : Traffic ω}

theorem rest_of_free (free : t.teardown = none) : t.rest = .bare := by
  rw [rest, free]

theorem rest_of_entered {number : Nat} (stage : t.teardown = some (.entered number)) :
    t.rest = .bare := by
  rw [rest, stage]

theorem rest_of_dismantling {number : Nat} {parts : Subsystems ω}
    (stage : t.teardown = some (.dismantling number parts)) : t.rest = parts := by
  rw [rest, stage]

namespace InOrder

-- A move of an operation, or of a handle, leaves the reset that is going on as it is.
theorem during (order : InOrder frame t) (same : next.teardown = t.teardown)
    (balanced : Balanced frame next.flights t.rest t.process.current next.process) :
    InOrder frame next := by
  have rest : next.rest = t.rest := by rw [Traffic.rest, same, Traffic.rest]
  have current := balanced.current_eq
  refine ⟨?_, ?_, ⟨?_, ?_⟩⟩
  · rw [rest, current]
    exact balanced
  · rw [rest]
    exact order.whole
  · rw [same, current]
    exact order.staged.entered
  · rw [same, current]
    exact order.staged.dismantling

theorem free (balanced : Balanced frame next.flights .bare next.process.current next.process)
    (free : next.teardown = none) : InOrder frame next := by
  refine ⟨?_, ?_, ⟨?_, ?_⟩⟩
  · rw [rest_of_free free]
    exact balanced
  · rw [rest_of_free free]
    exact .of_bare
  · intro number stage
    rw [free] at stage
    cases stage
  · intro number rest stage
    rw [free] at stage
    cases stage

theorem dismantling {number : Nat} {parts : Subsystems ω}
    (balanced : Balanced frame next.flights parts none next.process) (whole : parts.Whole)
    (stage : next.teardown = some (.dismantling number parts)) : InOrder frame next := by
  have vacant := balanced.current_eq
  refine ⟨?_, ?_, ⟨?_, fun _ _ _ => vacant⟩⟩
  · rw [rest_of_dismantling stage, vacant]
    exact balanced
  · rw [rest_of_dismantling stage]
    exact whole
  · intro number entered
    rw [stage] at entered
    cases entered

theorem lives {number : Nat} (order : InOrder frame t) (current : t.process.current = some number) :
    ∃ owned, subsystems? t.process number = some owned ∧ owned.Whole := by
  obtain ⟨_, _, _, _, _, _, _, sound⟩ := order.balanced
  obtain ⟨owned, lives⟩ := sound.1.lives current
  exact ⟨owned, lives, sound.1.whole owned ((live?_of_current current).trans lives)⟩

theorem built [Memory ω] (order : InOrder frame t) (free : t.teardown = none)
    (vacant : t.process.current = none) (options : StateM ω (Options ω)) :
    InOrder frame (t.onProcess (Process.onPlatform (Platform.consult options) >>= construct)) := by
  have balanced := order.balanced
  rw [rest_of_free free, vacant] at balanced
  have built : Ensures (Balanced frame t.flights .bare none)
      (Process.onPlatform (Platform.consult options) >>= construct) fun number =>
        Balanced frame t.flights .bare (some number) :=
    Ensures.bind (Balanced.lift fun _ _ _ _ => Sound.consult) fun _ => balanced_construct _
  have order := built t.process balanced
  refine .free ?_ free
  change Balanced frame t.flights .bare
    ((Process.onPlatform (Platform.consult options) >>= construct) t.process).2.current _
  rw [order.current_eq]
  exact order

theorem entered {number : Nat} (order : InOrder frame t) (free : t.teardown = none)
    (current : t.process.current = some number) :
    InOrder frame
      { t.onProcess (tellHandles number) with teardown := some (.entered number) } := by
  have told := order.balanced.alike (alike_tellHandles number t.process)
  rw [rest_of_free free] at told
  have same := told.current_eq
  refine ⟨?_, .of_bare, ⟨?_, ?_⟩⟩
  · change Balanced frame t.flights .bare (tellHandles number t.process).2.current _
    rw [same]
    exact told
  · rintro _ ⟨⟩
    exact same.trans current
  · intro other rest stage
    cases stage

theorem detached {number : Nat} (order : InOrder frame t)
    (stage : t.teardown = some (.entered number)) :
    InOrder frame
      { t with
        process := detach number t.process
        teardown := some (.dismantling number ((subsystems? t.process number).getD .bare)) } := by
  have current := order.staged.entered number stage
  obtain ⟨owned, lives, whole⟩ := order.lives current
  have balanced := order.balanced
  rw [rest_of_entered stage] at balanced
  have out : some (Teardown.dismantling number ((subsystems? t.process number).getD .bare)) =
      some (.dismantling number owned) := by
    rw [lives]
    rfl
  exact .dismantling (balanced_detach balanced current lives) whole out

theorem returned {number : Nat} {parts : Subsystems ω} (order : InOrder frame t)
    (stage : t.teardown = some (.dismantling number parts)) (last : parts.takeNext = none) :
    InOrder frame { t with teardown := none } := by
  obtain ⟨compliant, rfl⟩ := Subsystems.nothing_of_takeNext last
  have balanced := order.balanced
  rw [rest_of_dismantling stage] at balanced
  exact .free balanced rfl

theorem advance [Memory ω] (order : InOrder frame t) (advance : Advance t next) :
    InOrder frame next := by
  have balanced := order.balanced
  cases advance with
  | still => exact order
  | built options free vacant => exact order.built free vacant options
  | handled number change =>
    exact order.during rfl (balanced.alike (alike_changeHandles number change t.process))
  | dispatched number request =>
    exact order.during rfl (balanced.alike (tells_dispatch number request t.process))
  | begun product need needs => exact order.during rfl (balanced_acquire? need t.process balanced)
  | asked hold flies count => exact order.during rfl (balanced_ask flies count t.process balanced)
  | resumed hold flies => exact order.during rfl (balanced_resume flies t.process balanced)
  | finished flight hold found =>
    have front : t.flights.Perm (hold :: t.flights.eraseIdx flight) := by
      obtain ⟨bound, rfl⟩ := List.getElem?_eq_some_iff.mp found
      exact (List.getElem_cons_eraseIdx_perm bound).symm
    exact order.during rfl (balanced_release hold t.process (balanced.perm front))
  | entered number free current => exact order.entered free current
  | detached number stage => exact order.detached stage
  | taken number rest stage take less part =>
    have vacant := order.staged.dismantling number rest stage
    have whole := order.whole
    rw [rest_of_dismantling stage] at balanced whole
    rw [vacant] at balanced
    exact .dismantling (balanced_taken whole part t.process balanced) (whole.taken part) rfl
  | returned number rest stage last => exact order.returned stage last
  | acted act =>
    exact order.during rfl (Balanced.lift (fun _ _ _ _ => Sound.consult) t.process balanced)

theorem run [Memory ω] (order : InOrder frame t) (move : Move ω) : InOrder frame (move.run t) :=
  order.advance (move.advance t)

theorem after [Memory ω] (order : InOrder frame t) (moves : List (Move ω)) :
    InOrder frame (after moves t) :=
  after_induction (InOrder frame) (fun move _ order => order.run move) moves order

theorem launch (outside : ω) (hosts : List Locking.Host) :
    InOrder [] (launch outside hosts) := by
  have steady : Steady false [] (Process.launch outside hosts) := steady_launch outside hosts
  exact .free ⟨_, _, [], [], _, rfl, rfl, steady.sound⟩ rfl

end InOrder

end Traffic

/-! Who holds what. -/

namespace Need

/-- How many hold what a product needs. -/
def holders (s : Process ω) : Need → Nat
  | suite place => (s.suites[place]?.map SharedSuite.holders).getD 0
  | generator place => (s.generators[place]?.map SharedGenerator.holders).getD 0

theorem acquire?_isSome (need : Need) (s : Process ω) :
    (need.acquire? s).1.isSome = true ↔ need.holders s ≠ 0 := by
  cases need with
  | suite place =>
    rw [acquire?_suite, Option.isSome_map, acquireSuite?_eq, holders]
    cases s.suites[place]? with
    | none => exact iff_of_false Bool.false_ne_true (not_not_intro rfl)
    | some shared =>
      by_cases unheld : shared.holders = 0
      · simp only [unheld, if_true]
        exact iff_of_false Bool.false_ne_true (not_not_intro unheld)
      · simp only [unheld, if_false]
        exact iff_of_true rfl unheld
  | generator place =>
    rw [acquire?_generator, Option.isSome_map, acquireGenerator?_eq, holders]
    cases s.generators[place]? with
    | none => exact iff_of_false Bool.false_ne_true (not_not_intro rfl)
    | some shared =>
      by_cases unheld : shared.holders = 0
      · simp only [unheld, if_true]
        exact iff_of_false Bool.false_ne_true (not_not_intro unheld)
      · simp only [unheld, if_false]
        exact iff_of_true rfl unheld

end Need

namespace Shelf.Counted

theorem holders_ne_zero {shelf : Shelf} {owner kept : Option Nat} {more flights : List Flight}
    (counted : shelf.Counted owner.toList (more ++ flights))
    (named : more.map Prod.fst = kept.toList) (place : Nat) :
    (shelf[place]?.map Prod.snd).getD 0 ≠ 0 ↔
      (owner = some place ∨ kept = some place) ∨ place ∈ flights.map Prod.fst := by
  rw [counted.holders, List.map_append, named, List.count_append, ← Nat.pos_iff_ne_zero,
    Nat.add_pos_iff_pos_or_pos, Nat.add_pos_iff_pos_or_pos]
  simp only [List.count_pos_iff, Option.mem_toList, or_assoc]

end Shelf.Counted

namespace Traffic

/-- An instance that was not taken down yet, with the parts that it still has. -/
def parts (t : Traffic ω) : Option (Nat × Subsystems ω) :=
  match t.teardown with
  | some (.dismantling number rest) => some (number, rest)
  | _ => t.process.current.bind fun number =>
    (subsystems? t.process number).map fun owned => (number, owned)

/-- An instance, or the reset that takes it down, has what a product needs. -/
def Keeps (t : Traffic ω) (number : Nat) (need : Need) : Prop :=
  ∃ owned, t.parts = some (number, owned) ∧ need.PartOf owned

/-- An operation in flight holds what a product needs. -/
def InFlight (t : Traffic ω) (need : Need) : Prop :=
  ∃ hold ∈ t.flights, hold.need = need

variable {frame : List Entry} {t : Traffic ω}

theorem parts_of_dismantling {number : Nat} {rest : Subsystems ω}
    (stage : t.teardown = some (.dismantling number rest)) : t.parts = some (number, rest) := by
  rw [parts, stage]

theorem parts_of_slot (stage : ∀ number rest, t.teardown ≠ some (.dismantling number rest)) :
    t.parts = t.process.current.bind fun number =>
      (subsystems? t.process number).map fun owned => (number, owned) := by
  unfold parts
  split
  case h_1 number rest dismantling => exact absurd dismantling (stage number rest)
  case h_2 => rfl

theorem rest_of_slot (stage : ∀ number rest, t.teardown ≠ some (.dismantling number rest)) :
    t.rest = .bare := by
  unfold rest
  split
  case h_1 number rest dismantling => exact absurd dismantling (stage number rest)
  case h_2 => rfl

-- A part of an instance is with the live one, or with the reset that takes it down.
theorem InOrder.part_iff (order : InOrder frame t) (part : Subsystems ω → Option Nat)
    (bare : part .bare = none) (place : Nat) :
    (∃ number owned, t.parts = some (number, owned) ∧ part owned = some place) ↔
      (live? t.process).bind part = some place ∨ part t.rest = some place := by
  by_cases stage : ∃ number rest, t.teardown = some (.dismantling number rest)
  · obtain ⟨number, rest, stage⟩ := stage
    have vacant := live?_of_none (order.staged.dismantling number rest stage)
    rw [parts_of_dismantling stage, rest_of_dismantling stage, vacant]
    simp
  · simp only [not_exists] at stage
    rw [parts_of_slot stage, rest_of_slot stage, bare]
    cases current : t.process.current with
    | none =>
      rw [live?_of_none current]
      simp
    | some number =>
      rw [live?_of_current current, Option.bind_some]
      cases subsystems? t.process number <;> simp

theorem inFlight_suite (place : Nat) :
    t.InFlight (.suite place) ↔
      place ∈ (t.flights.filterMap Hold.suiteFlight?).map Prod.fst := by
  constructor
  · rintro ⟨hold, flies, same⟩
    cases hold with
    | suite other held =>
      cases same
      have flight : (place, held.handle.entry) ∈ t.flights.filterMap Hold.suiteFlight? :=
        List.mem_filterMap.mpr ⟨_, flies, rfl⟩
      exact List.mem_map_of_mem flight
    | generator other shared => cases same
  · intro member
    obtain ⟨flight, listed, rfl⟩ := List.mem_map.mp member
    obtain ⟨hold, flies, same⟩ := List.mem_filterMap.mp listed
    cases hold with
    | suite other held =>
      cases same
      exact ⟨_, flies, rfl⟩
    | generator other shared => cases same

theorem inFlight_generator (place : Nat) :
    t.InFlight (.generator place) ↔
      place ∈ (t.flights.filterMap Hold.generatorFlight?).map Prod.fst := by
  constructor
  · rintro ⟨hold, flies, same⟩
    cases hold with
    | suite other held => cases same
    | generator other shared =>
      cases same
      have flight : (place, shared.view.1) ∈ t.flights.filterMap Hold.generatorFlight? :=
        List.mem_filterMap.mpr ⟨_, flies, rfl⟩
      exact List.mem_map_of_mem flight
  · intro member
    obtain ⟨flight, listed, rfl⟩ := List.mem_map.mp member
    obtain ⟨hold, flies, same⟩ := List.mem_filterMap.mp listed
    cases hold with
    | suite other held => cases same
    | generator other shared =>
      cases same
      exact ⟨_, flies, rfl⟩

-- What a product needs is held by its instance, by the reset that takes it down, or by operations.
theorem InOrder.holders_iff (order : InOrder frame t) (need : Need) :
    need.holders t.process ≠ 0 ↔ (∃ number, t.Keeps number need) ∨ t.InFlight need := by
  obtain ⟨_, _, _, _, _, named, counted, sound⟩ := order.balanced
  cases need with
  | suite place =>
    have shelved : (Need.suite place).holders t.process =
        ((suiteShelf t.process)[place]?.map Prod.snd).getD 0 := by
      rw [suiteShelf, List.getElem?_map, Option.map_map]
      rfl
    rw [shelved, sound.1.suites.holders_ne_zero named, inFlight_suite]
    exact or_congr_left (order.part_iff Subsystems.suite rfl place).symm
  | generator place =>
    have shelved : (Need.generator place).holders t.process =
        ((generatorShelf t.process)[place]?.map Prod.snd).getD 0 := by
      rw [generatorShelf, List.getElem?_map, Option.map_map]
      rfl
    rw [shelved, sound.1.generators.holders_ne_zero counted, inFlight_generator]
    exact or_congr_left (order.part_iff Subsystems.generator rfl place).symm

/-- An operation can begin exactly as long as somebody has what it needs: the instance it belongs
to, the reset that takes it down, or another operation. -/
theorem InOrder.begins_iff (order : InOrder frame t) (need : Need) :
    (need.acquire? t.process).1.isSome = true ↔
      (∃ number, t.Keeps number need) ∨ t.InFlight need :=
  (need.acquire?_isSome t.process).trans (order.holders_iff need)

end Traffic

end CryptoProvider.Factory
