import CryptoProvider.Proofs.Factory.Accounting
import CryptoProvider.Proofs.Ledger.Releases

/-!
Teardown is the reverse of construction: a reset lets go of the parts that are present, each in
its own order, the last one built first, and does nothing else. Afterwards nothing happens to them
any more.
-/

set_option autoImplicit false

namespace CryptoProvider.Factory

open Ledger

variable {ω : Type}

def suiteReleases (s : Process ω) (number : Option Nat) : List Act :=
  match number.bind (s.suites[·]?) with
  | some shared => shared.suite.handle.releases
  | none => []

def generatorReleases (s : Process ω) (number : Option Nat) : List Act :=
  match number.bind (s.generators[·]?) with
  | some shared => [.call (.generatorDrop shared.number)]
  | none => []

/-- How a lock bridge is let go: the callback it installed, if that is still in place, and its
pool. -/
def bridgeReleases (s : Process ω) (bridge : Locking.Bridge) : List Act :=
  (if bridge.state = .installedByUs ∧ (s.registry bridge.registry).callback = some .bridge then
    [.call (.callbackSet bridge.registry none)] else []) ++
  if bridge.share.isSome then [.change (.pool none)] else []

/-- How the parts of an instance are let go, where the lookup of the nested transport, if it is
made, answers with a status and a pointer. -/
def releases (s : Process ω) (owned : Subsystems ω) (status : Nat) (nested : Option Nat) :
    List Act :=
  suiteReleases s owned.suite ++
  ((owned.hardware.map fun hardware =>
    hardware.releases status nested s.transport.isSome).getD [] ++
  (generatorReleases s owned.generator ++
  ((owned.hardwareRandom.map fun random => random.handle.releases).getD [] ++
  (owned.lockBridge.map (bridgeReleases s)).getD [])))

section

variable {generators : List (SharedGenerator ω)} {past : List Act} {contents : Slots ω}

def Telling (generators : List (SharedGenerator ω)) (past : List Act) (contents : Slots ω)
    (s : Process ω) : Prop :=
  s.generators = generators ∧ Told past contents s.toPlatform

theorem Telling.lift {α : Type} {operation : StateM (Platform ω) α} {after : α → Platform ω → Prop}
    (spec : Ensures (Told past contents) operation after) :
    Ensures (Telling generators past contents) (Process.onPlatform operation) fun value s =>
      s.generators = generators ∧ after value s.toPlatform :=
  fun s telling => ⟨telling.1, spec s.toPlatform telling.2⟩

theorem told_lift {α : Type} {operation : StateM (Platform ω) α} {after : α → Platform ω → Prop}
    (spec : Ensures (Told past contents) operation after) :
    Ensures (fun s => Told past contents s.toPlatform) (Process.onPlatform operation)
      fun value s => after value s.toPlatform :=
  fun s told => spec s.toPlatform told

theorem telling_dismissSuite {number : Nat} {shared : SharedSuite ω} (alone : shared.holders = 1)
    (started : shared.suite.handle.started = true) :
    Ensures (fun s => s.suites[number]? = some shared ∧ Telling generators past contents s)
      (dismissSuite number)
      fun _ => Telling generators (past ++ shared.suite.handle.releases) contents := by
  unfold dismissSuite
  refine Ensures.read fun s ⟨found, telling⟩ => ?_
  rw [found]
  dsimp only
  rw [if_neg (by omega)]
  unfold releaseSuite
  refine Ensures.read ?_
  rintro _ rfl
  rw [found]
  dsimp only
  refine Ensures.step ?_
  rw [if_pos alone]
  refine Ensures.strengthen (Telling.lift (Engine.Handle.told_drop started)) ?_
  rintro _ rfl
  exact telling

theorem telling_releaseGenerator {number : Nat} {shared : SharedGenerator ω}
    (found : generators[number]? = some shared) (alone : shared.holders = 1) :
    Ensures (Telling generators past contents) (releaseGenerator number) fun _ s =>
      Told (past ++ [.call (.generatorDrop shared.number)]) contents s.toPlatform := by
  unfold releaseGenerator
  refine Ensures.read fun s telling => ?_
  rw [telling.1, found]
  dsimp only
  refine Ensures.step ?_
  rw [if_pos alone]
  refine Ensures.strengthen (told_lift Told.record) ?_
  rintro _ rfl
  exact telling.2

end

-- Nobody but the owner holds a shared object when nothing is in flight.
theorem Shelf.Counted.sole {shelf : Shelf} {place : Nat}
    (counted : shelf.Counted [place] []) :
    ∃ entry, shelf[place]? = some (entry, 1) := by
  have positive : 0 < [place].count place + (([] : List Flight).map Prod.fst).count place := by
    simp
  obtain ⟨entry, holders, found, count⟩ := counted.found positive
  refine ⟨entry, ?_⟩
  rw [found, count]
  simp

section

variable {s : Process ω} {owned : Subsystems ω} {past : List Act} {contents : Slots ω}

theorem suite_of_live (standing : Standing (resting [] s) s) (owner : live? s = some owned)
    {number : Nat} (same : owned.suite = some number) :
    ∃ shared, s.suites[number]? = some shared ∧ shared.holders = 1 ∧
      shared.suite.handle.started = true := by
  have counted := standing.suites
  change (suiteShelf s).Counted ((live? s).bind Subsystems.suite).toList [] at counted
  rw [owner, Option.bind_some, same] at counted
  obtain ⟨entry, shelved⟩ := counted.sole
  rw [suiteShelf, List.getElem?_map] at shelved
  obtain ⟨shared, found, viewed⟩ := Option.map_eq_some_iff.mp shelved
  exact ⟨shared, found, congrArg Prod.snd viewed,
    standing.started shared (List.mem_of_getElem? found)⟩

theorem generator_of_live (standing : Standing (resting [] s) s) (owner : live? s = some owned)
    {number : Nat} (same : owned.generator = some number) :
    ∃ shared, s.generators[number]? = some shared ∧ shared.holders = 1 := by
  have counted := standing.generators
  change (generatorShelf s).Counted ((live? s).bind Subsystems.generator).toList [] at counted
  rw [owner, Option.bind_some, same] at counted
  obtain ⟨entry, shelved⟩ := counted.sole
  rw [generatorShelf, List.getElem?_map] at shelved
  obtain ⟨shared, found, viewed⟩ := Option.map_eq_some_iff.mp shelved
  exact ⟨shared, found, congrArg Prod.snd viewed⟩

theorem telling_dropSuite (standing : Standing (resting [] s) s) (owner : live? s = some owned) :
    Ensures (fun t => t.suites = s.suites ∧ Telling s.generators past contents t)
      (owned.suite.forM dismissSuite)
      fun _ => Telling s.generators (past ++ suiteReleases s owned.suite) contents := by
  cases same : owned.suite with
  | none =>
    refine Ensures.pure fun t telling => ?_
    simpa [suiteReleases] using telling.2
  | some number =>
    obtain ⟨shared, found, alone, started⟩ := suite_of_live standing owner same
    have released : suiteReleases s (some number) = shared.suite.handle.releases := by
      simp [suiteReleases, found]
    rw [released]
    refine Ensures.strengthen (telling_dismissSuite alone started) fun t telling => ?_
    rw [telling.1]
    exact ⟨found, telling.2⟩

theorem told_dropGenerator (standing : Standing (resting [] s) s) (owner : live? s = some owned) :
    Ensures (Telling s.generators past contents) (owned.generator.forM releaseGenerator)
      fun _ t => Told (past ++ generatorReleases s owned.generator) contents t.toPlatform := by
  cases same : owned.generator with
  | none =>
    refine Ensures.pure fun t telling => ?_
    simpa [generatorReleases] using telling.2
  | some number =>
    obtain ⟨shared, found, alone⟩ := generator_of_live standing owner same
    have released : generatorReleases s (some number) = [.call (.generatorDrop shared.number)] := by
      simp [generatorReleases, found]
    rw [released]
    exact telling_releaseGenerator found alone

theorem telling_dropHardware {generators : List (SharedGenerator ω)} (whole : owned.Whole) :
    Ensures (Telling generators past contents)
      (owned.hardware.forM fun hardware => Process.onPlatform hardware.drop) fun _ t =>
        ∃ status nested, Telling generators
          (past ++ (owned.hardware.map fun hardware =>
            hardware.releases status nested contents.transport.isSome).getD [])
          (if owned.hardware.isSome then { contents with transport := none } else contents) t := by
  cases same : owned.hardware with
  | none => exact Ensures.pure fun t telling => ⟨0, none, by simpa using telling⟩
  | some hardware =>
    refine Ensures.weaken (Telling.lift (Command.Hardware.told_drop (whole.hardware hardware same)))
      fun _ t told => ?_
    obtain ⟨kept, status, nested, told⟩ := told
    exact ⟨status, nested, kept, told⟩

theorem told_dropRandom (whole : owned.Whole) :
    Ensures (fun t => Told past contents t.toPlatform)
      (owned.hardwareRandom.forM fun random => Process.onPlatform random.drop) fun _ t =>
        Told (past ++ (owned.hardwareRandom.map fun random => random.handle.releases).getD [])
          contents t.toPlatform := by
  cases same : owned.hardwareRandom with
  | none => exact Ensures.pure fun t told => by simpa using told
  | some random => exact told_lift (Engine.Handle.told_drop (whole.random random same))

theorem told_dropBridge :
    Ensures (fun t => Told past contents t.toPlatform)
      (owned.lockBridge.forM fun bridge => Process.onPlatform do
        let _ ← bridge.teardown
        return ()) fun _ t =>
      Told (past ++ (owned.lockBridge.map fun bridge => bridge.releases contents).getD [])
        (match owned.lockBridge with
          | some bridge => bridge.dismantle contents
          | none => contents) t.toPlatform := by
  cases owned.lockBridge with
  | none => exact Ensures.pure fun t told => by simpa using told
  | some bridge =>
    have taken : Ensures (Told past contents)
        (do
          let _ ← bridge.teardown
          return ()) fun _ => Told (past ++ bridge.releases contents) (bridge.dismantle contents) :=
      Ensures.bind (Locking.Bridge.told_teardown bridge) fun _ => Ensures.pure fun _ told => told
    exact told_lift taken

-- A bridge whose pool is published lets its callback go if that is still in place.
theorem bridge_releases_eq {bridge : Locking.Bridge}
    (pool : contents.pool.map Locking.Published.share = bridge.share)
    (shares : bridge.share = none ↔ bridge.state = .notInstalled) (unchanged : ∀ number,
      (contents.registry number).callback = (s.registry number).callback) :
    bridge.releases contents = bridgeReleases s bridge := by
  have owns : bridge.ownsCallback contents ↔
      bridge.state = .installedByUs ∧ (s.registry bridge.registry).callback = some .bridge := by
    rw [Locking.Bridge.ownsCallback, ownsSlot_of_share pool, unchanged]
    constructor
    · rintro ⟨state, callback, _⟩
      exact ⟨state, callback⟩
    · rintro ⟨state, callback⟩
      refine ⟨state, callback, Option.isSome_iff_ne_none.mpr ?_⟩
      intro none
      rw [shares.mp none] at state
      cases state
  rw [Locking.Bridge.releases, bridgeReleases, ownsSlot_of_share pool]
  simp only [owns]

theorem told_destroy (standing : Standing (resting [] s) s) (owner : live? s = some owned)
    (follows : Follows false (some owned) (slots s.toPlatform)) :
    Ensures (fun t => t.suites = s.suites ∧ Telling s.generators s.acts (slots s.toPlatform) t)
      (destroy owned) fun _ t => ∃ status nested,
        Told (s.acts ++ releases s owned status nested) (owned.dismantle (slots s.toPlatform))
          t.toPlatform := by
  have whole := standing.whole owned owner
  unfold destroy
  refine Ensures.bind (telling_dropSuite standing owner) fun _ => ?_
  refine Ensures.bind (telling_dropHardware whole) fun _ => ?_
  refine Ensures.exists_intro fun status => Ensures.exists_intro fun nested => ?_
  refine Ensures.bind (told_dropGenerator standing owner) fun _ => ?_
  refine Ensures.bind (told_dropRandom whole) fun _ => ?_
  refine Ensures.weaken told_dropBridge fun _ t told => ⟨status, nested, ?_⟩
  have bridges : (owned.lockBridge.map fun bridge => bridge.releases
      (if owned.hardware.isSome then { slots s.toPlatform with transport := none }
        else slots s.toPlatform)) = owned.lockBridge.map (bridgeReleases s) := by
    cases same : owned.lockBridge with
    | none => rfl
    | some bridge =>
      have pool : (slots s.toPlatform).pool.map Locking.Published.share = bridge.share := by
        simpa [same] using follows.pool
      refine congrArg some (bridge_releases_eq ?_ (whole.bridge bridge same) fun number => ?_)
      · split <;> exact pool
      · split <;> rfl
  rw [bridges] at told
  simp only [List.append_assoc] at told
  exact told

theorem told_reset (standing : Standing (resting [] s) s) {number : Nat}
    (current : s.current = some number) (lives : subsystems? s number = some owned)
    (follows : Follows false (some owned) (slots s.toPlatform)) :
    ∃ status nested,
      Told (s.acts ++ releases s owned status nested) (owned.dismantle (slots s.toPlatform))
        (reset s).2.toPlatform := by
  have owner : live? s = some owned := (live?_of_current current).trans lives
  rw [reset_eq current lives]
  have finished : Ensures
      (fun t => t.suites = s.suites ∧ Telling s.generators s.acts (slots s.toPlatform) t)
      (finishReset ((s.instances[number]?.map Instance.handles).getD 0) owned) fun _ t =>
        ∃ status nested,
          Told (s.acts ++ releases s owned status nested) (owned.dismantle (slots s.toPlatform))
            t.toPlatform := by
    unfold finishReset
    split
    · refine Ensures.bind ?_ fun _ => told_destroy standing owner follows
      exact fun t ⟨suites, generators, told⟩ => ⟨suites, generators, Told.note _ told⟩
    · exact told_destroy standing owner follows
  exact finished (detach number s) ⟨rfl, rfl, rfl, rfl⟩

end

-- Acts that come later come later in every life.
theorem life_of_acts {s next : Platform ω} {more : List Act} (acts : next.acts = s.acts ++ more)
    (number : Nat) :
    ∃ rest, next.life number = s.life number ++ rest := by
  refine ⟨(more.filterMap Act.call?).filter fun call => number ∈ call.subjects, ?_⟩
  rw [Platform.life, Platform.life, calls_of_acts, calls_of_acts, acts, List.filterMap_append,
    List.filter_append]

-- A number that somebody held and now nobody holds has had its life.
theorem life_after_of_gone [Memory ω] {s : Process ω} (steady : Steady false [] s)
    (idle : s.current = none) {number : Nat} (called : s.life number ≠ []) (later : List (Step ω)) :
    (after later s).life number = s.life number := by
  have empty : stock s = [] := stock_eq_nil steady.standing idle
  have accounts : Accounts [] s.toPlatform := by
    have accounts := steady.accounts
    rw [empty] at accounts
    exact accounts
  have issued : number < s.next :=
    Nat.lt_of_not_le fun late => called (accounts.unused number late)
  have standing :
      Standing ((resting [] s).addEntries [(number, .retired (s.life number))]) s :=
    Standing.addEntries.mpr steady.standing
  -- Its life is put into the frame, as one to which nothing happens; no step touches the frame.
  have framed : Steady false [(number, .retired (s.life number))] s := by
    refine ⟨standing, ?_, steady.follows⟩
    rw [empty]
    exact accounts.retire List.not_mem_nil issued
  have kept : Steady false [(number, .retired (s.life number))] (after later s) :=
    steady_after (by simp) framed
  exact kept.accounts.lived (number, .retired (s.life number))
    (List.mem_append_right _ List.mem_cons_self)

theorem idle_after [Memory ω] {s : Process ω} (steady : Steady false [] s) (idle : s.current = none)
    {later : List (Step ω)} (quiet : ∀ step ∈ later, step.demands = false) :
    (after later s).current = none := by
  have succeeds : Succeeds false s (after later s) := by
    refine succeeds_after steady fun step member demands => ?_
    rw [quiet step member] at demands
    exact demands
  cases current : (after later s).current with
  | none => rfl
  | some number =>
    rcases succeeds.current number current with kept | ⟨built, _⟩
    · rw [idle] at kept
      cases kept
    · cases built

/-- What a reset of a process with a live instance comes to. -/
structure Reversed [Memory ω] (s : Process ω) (owned : Subsystems ω) : Prop where
  suite : ∀ number, owned.suite = some number → (s.suites[number]?).isSome = true
  hardware : ∀ hardware, owned.hardware = some hardware → hardware.Whole
  generator : ∀ number, owned.generator = some number → (s.generators[number]?).isSome = true
  /-- Exactly their releases happen, in the reverse order of construction. -/
  acts : ∃ status nested, (reset s).2.acts = s.acts ++ releases s owned status nested
  current : (reset s).2.current = none
  transport : owned.hardware.isSome = true → (reset s).2.transport = none
  callback : ∀ bridge, owned.lockBridge = some bridge → bridge.state = .installedByUs →
    ((reset s).2.registry bridge.registry).callback ≠ some .bridge
  pool : (reset s).2.pool = none
  /-- No finalizer of the transport context runs after that, whatever happens. -/
  finalizer : ∀ hardware transport, owned.hardware = some hardware →
    hardware.transport = some transport → ∀ later,
      (after later (reset s).2).life transport.number = (reset s).2.life transport.number
  /-- Another reset does nothing unless an instance was demanded meanwhile. -/
  again : ∀ later, (∀ step ∈ later, step.demands = false) →
    reset (after later (reset s).2) = ((), after later (reset s).2)

theorem life_of_context {s : Process ω} (steady : Steady false [] s) {owned : Subsystems ω}
    (owner : live? s = some owned) {hardware : Command.Hardware ω}
    {transport : Transport.Context ω} (present : owned.hardware = some hardware)
    (has : hardware.transport = some transport) : s.life transport.number ≠ [] := by
  have inHardware : transport.entry ∈ hardware.entries := by
    rw [Command.Hardware.entries, has]
    exact List.mem_append_right _ List.mem_cons_self
  have inOwned : transport.entry ∈ owned.entries := by
    rw [Subsystems.entries, present]
    exact List.mem_append_left _ inHardware
  have inStock : transport.entry ∈ stock s := by
    rw [stock, owner]
    exact List.mem_append_right _ (List.mem_append_right _ inOwned)
  obtain ⟨module, config, size, zeroed, life⟩ :=
    steady.accounts.lived transport.entry (List.mem_append_left _ inStock)
  change s.life transport.number = _ at life
  rw [life]
  exact List.cons_ne_nil _ _

/-- In every run, a reset takes the live instance down in the reverse order of its construction. -/
theorem reset_reversed [Memory ω] (outside : ω) (hosts : List Locking.Host) (steps : List (Step ω))
    (number : Nat) (owned : Subsystems ω)
    (current : (after steps (Process.launch outside hosts)).current = some number)
    (lives : subsystems? (after steps (Process.launch outside hosts)) number = some owned) :
    Reversed (after steps (Process.launch outside hosts)) owned := by
  have steady : Steady false [] (after steps (Process.launch outside hosts)) :=
    steady_after (by simp) (steady_launch outside hosts)
  generalize after steps (Process.launch outside hosts) = s at steady current lives
  have owner : live? s = some owned := (live?_of_current current).trans lives
  have follows : Follows false (some owned) (slots s.toPlatform) := owner ▸ steady.follows
  have whole := steady.standing.whole owned owner
  obtain ⟨status, nested, acts, contents⟩ := told_reset steady.standing current lives follows
  have orderly := orderly_reset s steady
  have after : Steady false [] (reset s).2 := orderly.steady rfl rfl rfl
  have idle : (reset s).2.current = none := orderly.standing.current
  have empty := follows.dismantled whole
  refine ⟨?_, whole.hardware, ?_, ⟨status, nested, acts⟩, idle, ?_, ?_, ?_, ?_, ?_⟩
  · intro number same
    obtain ⟨shared, found, _⟩ := suite_of_live steady.standing owner same
    rw [found]
    rfl
  · intro number same
    obtain ⟨shared, found, _⟩ := generator_of_live steady.standing owner same
    rw [found]
    rfl
  · intro present
    exact (congrArg Slots.transport contents).trans (dismantle_transport present)
  · intro bridge present state
    rw [registry_of_slots contents]
    exact dismantle_callback whole follows present state
  · have published : (reset s).2.pool.map Locking.Published.share = none :=
      (congrArg (fun contents : Slots ω => contents.pool.map Locking.Published.share)
        contents).trans empty.pool
    exact Option.map_eq_none_iff.mp published
  · intro hardware transport present has later
    refine life_after_of_gone after idle ?_ later
    -- The context was called on before the reset, so its number was given out and its life is over.
    obtain ⟨rest, grown⟩ := life_of_acts acts transport.number
    rw [grown]
    exact List.append_ne_nil_of_left_ne_nil (life_of_context steady owner present has) _
  · intro later quiet
    exact reset_of_none (idle_after after idle quiet)

theorem reset_reversed_willing :
    ∃ owned : Subsystems Unit,
      ((after [Willing.demand] (Process.launch () [Willing.host])).current = some 0 ∧
        subsystems? (after [Willing.demand] (Process.launch () [Willing.host])) 0 = some owned) ∧
      (owned.suite.isSome ∧ owned.hardware.isSome ∧ owned.hardwareRandom.isSome ∧
        owned.lockBridge.isSome) ∧
      Reversed (after [Willing.demand] (Process.launch () [Willing.host])) owned :=
  ⟨(subsystems? (after [Willing.demand] (Process.launch () [Willing.host])) 0).get rfl,
    ⟨rfl, rfl⟩, ⟨rfl, rfl, rfl, rfl⟩,
    reset_reversed () [Willing.host] [Willing.demand] 0 _ rfl rfl⟩

-- The whole order, on a system where everything came up.
example :
    (reset (after [Willing.demand] (Process.launch () [Willing.host]))).2.acts =
      (after [Willing.demand] (Process.launch () [Willing.host])).acts ++
        [.call (.engineFinish ⟨7, "gost"⟩), .call (.engineFree ⟨7, "gost"⟩),
          .call (.commandTransport 6 0 (some 5)), .call (.commandFinalize 6),
          .call (.transportFinalize "plain" 5 1 true), .change (.transport none),
          .call (.moduleClosed 3 "commands"), .call (.generatorDrop 2),
          .call (.engineFinish ⟨1, "rdrand"⟩), .call (.engineFree ⟨1, "rdrand"⟩),
          .call (.callbackSet 0 none), .change (.pool none)] := by
  rfl

end CryptoProvider.Factory
