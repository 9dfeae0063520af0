import CryptoProvider.Proofs.Factory.Epochs
import CryptoProvider.Proofs.Factory.Lasting
import CryptoProvider.Proofs.Renaming.Factory

/-!
Cycles of the factory: an instance is demanded, used and taken down again. A cycle leaves the shared
slots as it found them; so a later cycle does what an earlier one did, as far as the collaborators
answer alike.
-/

set_option autoImplicit false

namespace CryptoProvider

open Ledger

variable {ω : Type}

/-- A call without its answer, where the answer is an address. -/
def Call.asked : Call → Call
  | .commandTransport context status nested =>
    .commandTransport context status (nested.map fun _ => 0)
  | call => call

def Event.asked : Event → Event
  | .call reported made => .call reported made.asked
  | event => event

namespace Factory

/-- The same calls were made from one state to the next in two runs, up to the numbers given out. -/
def SameCalls (naming : Nat → Nat) (s next t later : Process ω) : Prop :=
  ∃ made others, next.calls = s.calls ++ made ∧ later.calls = t.calls ++ others ∧
    others.map Call.asked = made.map fun call => (call.rename naming).asked

/-- Two runs that give out `second` where the other gives out `first`, in related worlds. -/
def repeating (worlds : ω → ω → Prop) (first second : Nat) : Comparison ω :=
  ⟨renumber first second, worlds, Event.asked⟩

theorem overlooks_repeating (worlds : ω → ω → Prop) (first second : Nat) :
    (repeating worlds first second).Overlooks := by
  rintro reported context status found other same
  cases found <;> cases other <;> simp_all [repeating, Event.asked, Call.asked]

theorem call?_asked (event : Event) : event.asked.call? = event.call?.map Call.asked := by
  cases event <;> rfl

theorem call?_rename (naming : Nat → Nat) (event : Event) :
    (event.rename naming).call? = event.call?.map (Call.rename naming) := by
  cases event <;> rfl

theorem calls_append {s next : Platform ω} {made : List Event}
    (events : next.events = s.events ++ made) :
    next.calls = s.calls ++ made.filterMap Event.call? := by
  rw [Platform.calls, Platform.calls, events, List.filterMap_append]

theorem sameCalls_of_beside {worlds : ω → ω → Prop} {first second : Nat}
    {s next t later : Process ω}
    (beside : Beside (repeating worlds first second) s.events t.events next.toPlatform
      later.toPlatform) :
    SameCalls (renumber first second) s next t later := by
  obtain ⟨_, _, parallel⟩ := beside
  obtain ⟨made, others, early, late, alike⟩ := parallel.events
  refine ⟨_, _, calls_append early, calls_append late, ?_⟩
  have asked (events : List Event) : (events.filterMap Event.call?).map Call.asked =
      (events.map Event.asked).filterMap Event.call? := by
    rw [List.map_filterMap, List.filterMap_map]
    exact congrArg (List.filterMap · events) (funext fun event => (call?_asked event).symm)
  have renamed (events : List Event) :
      (events.filterMap Event.call?).map (Call.rename (renumber first second)) =
        (events.map (Event.rename (renumber first second))).filterMap Event.call? := by
    rw [List.map_filterMap, List.filterMap_map]
    exact congrArg (List.filterMap · events) (funext fun event => (call?_rename _ event).symm)
  calc (others.filterMap Event.call?).map Call.asked
      = (others.map Event.asked).filterMap Event.call? := asked others
    _ = ((made.map (Event.rename (renumber first second))).map Event.asked).filterMap
          Event.call? := by
        rw [List.map_map]
        exact congrArg (List.filterMap Event.call?) alike.symm
    _ = ((made.filterMap Event.call?).map (Call.rename (renumber first second))).map
          Call.asked := by
        rw [← asked, renamed]
    _ = (made.filterMap Event.call?).map fun call =>
          (call.rename (renumber first second)).asked := List.map_map

/-! Two demands, and two resets. -/

section

variable {c : Comparison ω} {first second : List Event} {s t : Process ω}

theorem demand_vacant [Memory ω] (vacant : s.current = none) (options : StateM ω (Options ω)) :
    after [.demand options] s =
      let asked := (Process.onPlatform (Platform.consult options) s).2
      adopt (build (options s.outside).1 asked).1 (build (options s.outside).1 asked).2 := by
  change (demand _ s).2 = _
  rw [demand_eq, vacant]
  rfl

theorem live?_adopt (owned : Subsystems ω) (s : Process ω) :
    live? (adopt owned s) = some owned := by
  rw [live?_of_current rfl, subsystems?_adopt, if_pos rfl]

/-- Two demands build twins. -/
theorem twins_demand [Memory ω] {options : StateM ω (Options ω)}
    (agree : Agree c.worlds options options)
    (steady : ∀ world, (options world).1.backends.Steady c.worlds)
    (vacant : s.current = none) (otherVacant : t.current = none)
    (locks : ∀ number, (s.registry number).lockCount = (t.registry number).lockCount)
    (beside : Beside c first second s.toPlatform t.toPlatform) :
    ∃ shelves owned other, Twins c shelves owned other ∧
      live? (after [.demand options] s) = some owned ∧
      live? (after [.demand options] t) = some other ∧
      Abreast (Beside c first second) shelves (after [.demand options] s)
        (after [.demand options] t) := by
  obtain ⟨_, _, parallel⟩ := beside
  obtain ⟨same, related⟩ := agree s.outside t.outside parallel.worlds
  let asked := (Process.onPlatform (Platform.consult options) s).2
  let otherAsked := (Process.onPlatform (Platform.consult options) t).2
  have abreast : Abreast (Beside c first second)
      ⟨s.suites, t.suites, s.generators, t.generators⟩ asked otherAsked :=
    ⟨⟨_, _, { parallel with worlds := related }⟩, rfl, rfl, rfl, rfl⟩
  obtain ⟨shelves, twins, built⟩ :=
    paired_build (steady s.outside) asked otherAsked ⟨locks _, abreast⟩
  rw [demand_vacant vacant, demand_vacant otherVacant, same]
  refine ⟨shelves, _, _, twins, live?_adopt _ _, live?_adopt _ _, ?_⟩
  exact ⟨built.platforms, built.suites, built.otherSuites, built.generators, built.otherGenerators⟩

/-- A reset tells the operator of the handles held, and then takes the parts down. -/
theorem reset_told {owned : Subsystems ω} (live : live? s = some owned) :
    ∃ told : Process ω, (reset s).2 = (destroy owned told).2 ∧
      (∃ trace, told.toPlatform = { s.toPlatform with trace }) ∧ told.calls = s.calls ∧
      told.suites = s.suites ∧ told.generators = s.generators := by
  obtain ⟨number, current, owns⟩ := Option.bind_eq_some_iff.mp live
  rw [reset_eq current owns]
  unfold finishReset
  split
  · refine ⟨(Process.onPlatform (Platform.note _) (detach number s)).2, rfl, ⟨_, rfl⟩, ?_, rfl, rfl⟩
    exact calls_push rfl
  · exact ⟨detach number s, rfl, ⟨_, rfl⟩, rfl, rfl, rfl⟩

/-- Twins are reset by the same calls, each by those of its own process. -/
theorem sameCalls_reset {worlds : ω → ω → Prop} {outset next : Nat} {shelves : Shelves ω}
    {owned other : Subsystems ω}
    (twins : Twins (repeating worlds outset next) shelves owned other)
    (live : live? s = some owned) (otherLive : live? t = some other)
    (abreast : Abreast (Beside (repeating worlds outset next) first second) shelves s t)
    (pool : ∀ bridge, owned.lockBridge = some bridge → s.pool.map (·.share) = bridge.share)
    (otherPool : ∀ bridge, other.lockBridge = some bridge → t.pool.map (·.share) = bridge.share) :
    SameCalls (renumber outset next) s (reset s).2 t (reset t).2 := by
  obtain ⟨told, same, ⟨_, platform⟩, calls, suites, generators⟩ := reset_told live
  obtain ⟨otherTold, otherSame, ⟨_, otherPlatform⟩, otherCalls, otherSuites, otherGenerators⟩ :=
    reset_told otherLive
  obtain ⟨_, _, parallel⟩ := abreast.platforms
  have start : Parallel (repeating worlds outset next)
      ⟨told.events, otherTold.events, told.pool, otherTold.pool⟩ told.toPlatform
      otherTold.toPlatform := by
    refine .start ?_ ?_ ?_ ?_
    all_goals rw [platform, otherPlatform]
    · exact parallel.worlds
    · exact parallel.fresh
    · exact parallel.transport
    · exact parallel.bindings
  have published : told.pool = s.pool := by rw [platform]
  have otherPublished : otherTold.pool = t.pool := by rw [otherPlatform]
  have destroyed : Beside (repeating worlds outset next) told.events otherTold.events
      (destroy owned told).2.toPlatform (destroy other otherTold).2.toPlatform := by
    refine paired_destroy (overlooks_repeating worlds outset next) twins ?_ ?_ told otherTold
      ⟨start, suites.trans abreast.suites, otherSuites.trans abreast.otherSuites,
        generators.trans abreast.generators, otherGenerators.trans abreast.otherGenerators⟩
    · rw [published]
      exact pool
    · rw [otherPublished]
      exact otherPool
  rw [same, otherSame]
  obtain ⟨made, others, early, late, alike⟩ := sameCalls_of_beside destroyed
  exact ⟨made, others, calls ▸ early, otherCalls ▸ late, alike⟩

end

/-! Cycles. -/

/-- An instance is demanded, used and taken down. -/
def cycle (options : StateM ω (Options ω)) (uses : List (Step ω)) : List (Step ω) :=
  .demand options :: (uses ++ [.reset])

/-- What the live instance can do. -/
def offered (s : Process ω) : Option Capabilities :=
  s.current.map (capabilities s)

/-- The collaborators of two cycles answer alike: in related worlds they give the same answers, and
the worlds are related where the cycles begin and where they end. -/
structure SameAnswers [Memory ω] (worlds : ω → ω → Prop) (options : StateM ω (Options ω))
    (uses others : List (Step ω)) (s t : Process ω) : Prop where
  chosen : Agree worlds options options
  backends : ∀ world, (options world).1.backends.Steady worlds
  locks : ∀ number, (s.registry number).lockCount = (t.registry number).lockCount
  beginning : worlds s.outside t.outside
  ending : worlds (after (.demand options :: uses) s).outside
    (after (.demand options :: others) t).outside

/-- Two cycles make the same calls, and their instances can do the same. -/
structure Repeats [Memory ω] (options : StateM ω (Options ω)) (uses others : List (Step ω))
    (s t : Process ω) : Prop where
  offered : offered (after [.demand options] t) = offered (after [.demand options] s)
  construction : SameCalls (renumber s.next t.next) s (after [.demand options] s) t
    (after [.demand options] t)
  reset : SameCalls (renumber s.next t.next) (after (.demand options :: uses) s)
    (after (cycle options uses) s) (after (.demand options :: others) t)
    (after (cycle options others) t)

theorem after_cycle [Memory ω] (options : StateM ω (Options ω)) (uses : List (Step ω))
    (s : Process ω) :
    after (cycle options uses) s = (reset (after (.demand options :: uses) s)).2 :=
  after_append (.demand options :: uses) [.reset] s

theorem offered_of_live {s : Process ω} {owned : Subsystems ω} (live : live? s = some owned) :
    offered s = some
      { compliant := owned.compliant
        hardware := owned.hardware.isSome
        hardwareRandom := owned.hardwareRandom.isSome
        suite := owned.suite.isSome
        locking := (owned.lockBridge.map Locking.Bridge.state).getD .notInstalled } := by
  obtain ⟨number, current, owns⟩ := Option.bind_eq_some_iff.mp live
  rw [offered, current, Option.map_some, capabilities, owns]

theorem isSome_of_rel {relation : Nat → Nat → Prop} {number other : Option Nat}
    (related : Option.Rel relation number other) : other.isSome = number.isSome := by
  cases related <;> rfl

theorem offered_of_twins {c : Comparison ω} {shelves : Shelves ω} {owned other : Subsystems ω}
    (twins : Twins c shelves owned other) {s t : Process ω} (live : live? s = some owned)
    (otherLive : live? t = some other) : offered t = offered s := by
  rw [offered_of_live live, offered_of_live otherLive]
  have state : other.lockBridge.map Locking.Bridge.state =
      owned.lockBridge.map Locking.Bridge.state := by
    rw [twins.lockBridge, Option.map_map]
    rfl
  rw [state, twins.compliant, twins.hardware, twins.hardwareRandom, isSome_of_rel twins.suite,
    Option.isSome_map, Option.isSome_map]

/-- The instance that is built is the one that the reset takes down. -/
def LivesThrough [Memory ω] (options : StateM ω (Options ω)) (uses : List (Step ω))
    (s : Process ω) : Prop :=
  (after (.demand options :: uses) s).current = (after [.demand options] s).current

theorem Restorable.start {s : Process ω} (idle : s.current = none) :
    Restorable (slots s.toPlatform) s :=
  .of_idle idle (.refl _)

section

variable {s t : Process ω} {options : StateM ω (Options ω)} {uses others : List (Step ω)}

theorem restorable_uses [Memory ω] (idle : s.current = none) (unpublished : s.pool = none)
    (own : ∀ step ∈ uses, step.interferes = false) :
    Restorable (slots s.toPlatform) (after (.demand options :: uses) s) := by
  refine restorable_after unpublished ?_ (.start idle)
  intro step member
  rcases List.mem_cons.mp member with rfl | later
  · rfl
  · exact own step later

theorem lasting_uses [Memory ω] (idle : s.current = none) (unpublished : s.pool = none)
    (own : ∀ step ∈ uses, step.interferes = false) {owned : Subsystems ω}
    (live : live? (after [.demand options] s) = some owned)
    (lives : LivesThrough options uses s) :
    Lasting (after [.demand options] s) (after (.demand options :: uses) s) := by
  obtain ⟨number, current, owns⟩ := Option.bind_eq_some_iff.mp live
  have built : number < (after [.demand options] s).instances.length := by
    refine Nat.lt_of_not_le fun beyond => ?_
    rw [subsystems?_of_length_le beyond] at owns
    cases owns
  have none : ∀ step ∈ ([] : List (Step ω)), step.interferes = false := nofun
  have restorable : Restorable (slots s.toPlatform) (after [.demand options] s) :=
    restorable_uses idle unpublished none
  exact lasting_of_current unpublished own restorable current built lives

theorem Lasting.live? (lasting : Lasting s t) : Factory.live? t = Factory.live? s := by
  rw [Factory.live?, Factory.live?, lasting.current, lasting.owned]

theorem share_uses [Memory ω] (idle : s.current = none) (unpublished : s.pool = none)
    (own : ∀ step ∈ uses, step.interferes = false) {owned : Subsystems ω}
    (live : live? (after (.demand options :: uses) s) = some owned) (bridge : Locking.Bridge)
    (present : owned.lockBridge = some bridge) :
    (after (.demand options :: uses) s).pool.map (·.share) = bridge.share := by
  obtain ⟨number, current, owns⟩ := Option.bind_eq_some_iff.mp live
  exact (restorable_uses idle unpublished own).share unpublished current owns bridge present

/-- A cycle that begins where another began does the same. -/
theorem repeats_of_alike [Memory ω] {worlds : ω → ω → Prop} (idle : s.current = none)
    (otherIdle : t.current = none) (unpublished : s.pool = none)
    (alike : (slots s.toPlatform).Alike (slots t.toPlatform))
    (own : ∀ step ∈ uses, step.interferes = false)
    (otherOwn : ∀ step ∈ others, step.interferes = false)
    (answers : SameAnswers worlds options uses others s t) (lives : LivesThrough options uses s)
    (otherLives : LivesThrough options others t) : Repeats options uses others s t := by
  have otherUnpublished : t.pool = none := alike.symm.pool_eq_none unpublished
  have beside : Beside (repeating worlds s.next t.next) s.events t.events s.toPlatform
      t.toPlatform :=
    ⟨_, _, .start answers.beginning (renumber_ahead _ _) (congrArg _ alike.transport)
      alike.bindings⟩
  obtain ⟨shelves, owned, other, twins, live, otherLive, built⟩ :=
    twins_demand answers.chosen answers.backends idle otherIdle answers.locks beside
  have lasting := lasting_uses idle unpublished own live lives
  have otherLasting := lasting_uses otherIdle otherUnpublished otherOwn otherLive otherLives
  have stillLive := lasting.live?.trans live
  have otherStillLive := otherLasting.live?.trans otherLive
  obtain ⟨_, _, parallel⟩ := built.platforms
  have used : Abreast (Beside (repeating worlds s.next t.next)
      (after (.demand options :: uses) s).events (after (.demand options :: others) t).events)
      shelves (after (.demand options :: uses) s) (after (.demand options :: others) t) := by
    refine ⟨⟨_, _, .start answers.ending ?_ ?_ ?_⟩, lasting.suites.trans built.suites,
      otherLasting.suites.trans built.otherSuites, lasting.generators.trans built.generators,
      otherLasting.generators.trans built.otherGenerators⟩
    · rw [lasting.next, otherLasting.next]
      exact parallel.fresh
    · have first : (after (.demand options :: uses) s).transport = _ := lasting.slots.transport
      have second : (after (.demand options :: others) t).transport = _ :=
        otherLasting.slots.transport
      rw [first, second]
      exact parallel.transport
    · exact lasting.slots.bindings.trans
        (parallel.bindings.trans otherLasting.slots.bindings.symm)
  refine ⟨offered_of_twins twins live otherLive, sameCalls_of_beside built.platforms, ?_⟩
  rw [after_cycle, after_cycle]
  exact sameCalls_reset twins stillLive otherStillLive used
    (share_uses idle unpublished own stillLive)
    (share_uses otherIdle otherUnpublished otherOwn otherStillLive)

end

/-- A cycle puts everything back: the instance slot, the transport slot, the pool and the callbacks
are as before. So a later cycle, in which the collaborators answer as in the first, makes the same
calls when it builds its instance and when it takes that down, and offers the same capabilities. -/
theorem cycle_restores [Memory ω] (s : Process ω) (options : StateM ω (Options ω))
    (uses : List (Step ω)) (idle : s.current = none) (unpublished : s.pool = none)
    (own : ∀ step ∈ uses, step.interferes = false) :
    (after (cycle options uses) s).current = s.current ∧
    (after (cycle options uses) s).transport = s.transport ∧
    (after (cycle options uses) s).pool = s.pool ∧
    (∀ number, ((after (cycle options uses) s).registry number).callback =
      (s.registry number).callback) ∧
    ∀ (worlds : ω → ω → Prop) (between others : List (Step ω)),
      (∀ step ∈ between ++ others, step.interferes = false) →
      (after between (after (cycle options uses) s)).current = none →
      SameAnswers worlds options uses others s (after between (after (cycle options uses) s)) →
      LivesThrough options uses s →
      LivesThrough options others (after between (after (cycle options uses) s)) →
      Repeats options uses others s (after between (after (cycle options uses) s)) := by
  have restorable : Restorable (slots s.toPlatform) (after (cycle options uses) s) := by
    rw [after_cycle]
    exact (restorable_uses idle unpublished own).reset unpublished
  have vacant : (after (cycle options uses) s).current = none := by
    rw [after_cycle]
    exact (restorable_uses idle unpublished own).current_reset.1
  have alike := restorable.idle vacant
  refine ⟨vacant.trans idle.symm, alike.transport,
    (alike.pool_eq_none unpublished).trans unpublished.symm, alike.callback, ?_⟩
  intro worlds between others otherOwn otherIdle answers lives otherLives
  have later := restorable_after unpublished
    (fun step member => otherOwn step (List.mem_append_left _ member)) restorable
  exact repeats_of_alike idle otherIdle unpublished (later.idle otherIdle).symm own
    (fun step member => otherOwn step (List.mem_append_right _ member)) answers lives otherLives

namespace Willing

-- Without an outside world to remember anything in, everybody answers as before.
theorem agree {α : Type} (program : StateM Unit α) : Agree (fun _ _ => True) program program :=
  fun _ _ _ => ⟨rfl, trivial⟩

theorem steady_modules : options.backends.modules.AllSteady fun _ _ => True where
  find _ := agree _
  plugins _ _ _ _ := ⟨agree _, fun _ _ _ _ _ _ _ _ => ⟨agree _, fun _ _ _ _ _ => agree _⟩⟩
  commands opened library offered resolved := by
    obtain ⟨path, world, found⟩ := offered
    obtain ⟨number, path, reported, _⟩ := opened
    cases found
    cases resolved
    exact ⟨fun _ => agree _, fun _ _ _ _ _ _ _ _ _ => ⟨rfl, trivial⟩,
      fun _ _ _ _ _ _ _ _ => ⟨⟨rfl, rfl, iff_of_true rfl rfl⟩, trivial⟩,
      fun _ _ _ _ _ _ _ _ => ⟨rfl, trivial⟩⟩

theorem steady_engines : options.backends.engines.Steady fun _ _ => True where
  loadBuiltin _ := agree _
  find _ := agree _
  start _ _ _ := agree _
  setDefault _ _ _ _ := agree _
  digest _ _ _ _ := agree _
  registerKeys _ _ _ := agree _
  control _ _ _ _ _ := agree _
  finish _ _ _ := agree _
  free _ _ _ := agree _

/-- A process on whose system every call succeeds. -/
def process : Process Unit :=
  Process.launch () [host]

/-- A use of an instance: the library takes a lock of its pool. -/
def uses : List (Step Unit) :=
  [.serve 0 1 3 none 7]

theorem sameAnswers :
    SameAnswers (fun _ _ => True) (pure options) uses [] process
      (after (cycle (pure options) uses) process) where
  chosen := agree _
  backends _ := ⟨steady_engines, ⟨agree _, agree _, agree _⟩, steady_modules, agree _,
    fun _ => agree _⟩
  locks number := by
    have same : (after (cycle (pure options) uses) process).registries = process.registries := rfl
    rw [Platform.registry, Platform.registry, same]
  beginning := trivial
  ending := trivial

end Willing

theorem cycle_restores_willing :
    Willing.process.current = none ∧ Willing.process.pool = none ∧
    (∀ step ∈ Willing.uses, step.interferes = false) ∧
    SameAnswers (fun _ _ => True) (pure Willing.options) Willing.uses [] Willing.process
      (after (cycle (pure Willing.options) Willing.uses) Willing.process) ∧
    (after (cycle (pure Willing.options) Willing.uses) Willing.process).pool =
      Willing.process.pool ∧
    Repeats (pure Willing.options) Willing.uses [] Willing.process
      (after (cycle (pure Willing.options) Willing.uses) Willing.process) := by
  have own : ∀ step ∈ Willing.uses, step.interferes = false := by decide
  have restored := cycle_restores Willing.process (pure Willing.options) Willing.uses rfl rfl own
  refine ⟨rfl, rfl, own, Willing.sameAnswers, restored.2.2.1, ?_⟩
  exact restored.2.2.2.2 _ [] [] nofun rfl Willing.sameAnswers rfl rfl

end Factory

end CryptoProvider
