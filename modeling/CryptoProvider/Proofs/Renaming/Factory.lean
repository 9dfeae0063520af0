import CryptoProvider.Proofs.Factory.Passing
import CryptoProvider.Proofs.Renaming.Bridge
import CryptoProvider.Proofs.Renaming.Engine
import CryptoProvider.Proofs.Renaming.Hardware

/-!
Building and taking down an instance in two runs. The two instances have the same parts, told apart
by their numbers only, and whatever is asked of a collaborator in the one run is asked in the other.
-/

set_option autoImplicit false

namespace CryptoProvider

variable {ω : Type}

namespace Factory

def SharedSuite.rename (naming : Nat → Nat) (shared : SharedSuite ω) : SharedSuite ω :=
  { shared with suite := shared.suite.rename naming }

def SharedGenerator.rename (naming : Nat → Nat) (shared : SharedGenerator ω) : SharedGenerator ω :=
  { shared with number := naming shared.number }

/-- Backends that answer alike in related worlds, where memory does too. -/
structure Backends.Steady [Memory ω] (worlds : ω → ω → Prop) (backends : Backends ω) : Prop where
  engines : backends.engines.Steady worlds
  compliance : backends.compliance.Steady worlds
  modules : backends.modules.AllSteady worlds
  generators : Agree worlds backends.generators.create backends.generators.create
  memory : Memory.Steady worlds

/-- The shared objects of two processes. -/
structure Shelves (ω : Type) where
  suites : List (SharedSuite ω)
  otherSuites : List (SharedSuite ω)
  generators : List (SharedGenerator ω)
  otherGenerators : List (SharedGenerator ω)

/-- Two processes with platforms side by side, and what is on their shelves. -/
structure Abreast (platforms : Platform ω → Platform ω → Prop) (shelves : Shelves ω)
    (s t : Process ω) : Prop where
  platforms : platforms s.toPlatform t.toPlatform
  suites : s.suites = shelves.suites
  otherSuites : t.suites = shelves.otherSuites
  generators : s.generators = shelves.generators
  otherGenerators : t.generators = shelves.otherGenerators

variable {c : Comparison ω} {outset : Outset} {first second : List Event} {shelves : Shelves ω}

namespace Abreast

variable {platforms : Platform ω → Platform ω → Prop} {α β : Type}
  {operation : StateM (Platform ω) α} {other : StateM (Platform ω) β}

theorem lift {answers : α → β → Prop} {after : Platform ω → Platform ω → Prop}
    (paired : Pair platforms operation other fun a b s t => answers a b ∧ after s t) :
    Pair (Abreast platforms shelves) (Process.onPlatform operation) (Process.onPlatform other)
      fun a b s t => answers a b ∧ Abreast after shelves s t := by
  intro s t abreast
  obtain ⟨answered, after⟩ := paired s.toPlatform t.toPlatform abreast.platforms
  exact ⟨answered, { abreast with platforms := after }⟩

theorem lift_unit {after : Platform ω → Platform ω → Prop}
    (paired : Pair platforms operation other fun _ _ => after) :
    Pair (Abreast platforms shelves) (Process.onPlatform operation) (Process.onPlatform other)
      fun _ _ => Abreast after shelves :=
  fun _ _ abreast => { abreast with platforms := paired _ _ abreast.platforms }

theorem beside {answers : α → β → Prop}
    (paired : ∀ outset, Pair (Parallel c outset) operation other fun a b s t =>
      answers a b ∧ Parallel c outset s t) :
    Pair (Abreast (Beside c first second) shelves) (Process.onPlatform operation)
      (Process.onPlatform other) fun a b s t =>
        answers a b ∧ Abreast (Beside c first second) shelves s t :=
  lift (Beside.lift paired)

/-- As `beside`, where a fact is known of the answer. -/
theorem beside_given {image : α → β} {fact : α → Prop}
    (paired : ∀ outset, Pair (Parallel c outset) operation other fun a b s t =>
      b = image a ∧ fact a ∧ Parallel c outset s t) :
    Pair (Abreast (Beside c first second) shelves) (Process.onPlatform operation)
      (Process.onPlatform other) fun a b s t =>
        b = image a ∧ fact a ∧ Abreast (Beside c first second) shelves s t := by
  have joined : Pair (Abreast (Beside c first second) shelves) (Process.onPlatform operation)
      (Process.onPlatform other) fun a b s t =>
        (b = image a ∧ fact a) ∧ Abreast (Beside c first second) shelves s t :=
    beside fun outset => (paired outset).weaken fun _ _ _ _ ⟨same, known, parallel⟩ =>
      ⟨⟨same, known⟩, parallel⟩
  exact joined.weaken fun _ _ _ _ ⟨⟨same, known⟩, abreast⟩ => ⟨same, known, abreast⟩

theorem note {notice : Notice} :
    Pair (Abreast (Beside c first second) shelves) (Process.onPlatform (Platform.note notice))
      (Process.onPlatform (Platform.note notice)) fun _ _ =>
        Abreast (Beside c first second) shelves :=
  lift_unit Beside.note

end Abreast

/-- A shared object of one process that nobody else holds, and the same in the other. -/
def SoleGenerator (c : Comparison ω) (shelves : Shelves ω) (number other : Nat) : Prop :=
  ∃ shared, shared.holders = 1 ∧ shelves.generators[number]? = some shared ∧
    shelves.otherGenerators[other]? = some (shared.rename c.naming)

def SoleSuite (c : Comparison ω) (shelves : Shelves ω) (number other : Nat) : Prop :=
  ∃ shared, shared.holders = 1 ∧ shared.suite.handle.api.Steady c.worlds ∧
    shelves.suites[number]? = some shared ∧
    shelves.otherSuites[other]? = some (shared.rename c.naming)

/-- Two instances with the same parts. -/
structure Twins (c : Comparison ω) (shelves : Shelves ω) (owned other : Subsystems ω) : Prop where
  lockBridge : other.lockBridge = owned.lockBridge.map (Locking.Bridge.rename c.naming)
  compliant : other.compliant = owned.compliant
  hardwareRandom :
    other.hardwareRandom = owned.hardwareRandom.map (Engine.HardwareRandom.rename c.naming)
  steadyRandom : ∀ random, owned.hardwareRandom = some random →
    random.handle.api.Steady c.worlds
  generator : Option.Rel (SoleGenerator c shelves) owned.generator other.generator
  hardware : other.hardware = owned.hardware.map (Command.Hardware.rename c.naming)
  steadyHardware : ∀ hardware, owned.hardware = some hardware → hardware.Steady c.worlds
  suite : Option.Rel (SoleSuite c shelves) owned.suite other.suite

theorem steady_of_none :
    ∀ hardware : Command.Hardware ω, none = some hardware → hardware.Steady c.worlds := by
  rintro _ ⟨⟩

section

variable [Memory ω] {options : Options ω} (steady : options.backends.Steady c.worlds)

theorem paired_setUpBridge (memory : Memory.Steady c.worlds) (registry : Nat) :
    Pair (fun s t => (s.registry registry).lockCount = (t.registry registry).lockCount ∧
        Abreast (Beside c first second) shelves s t)
      (setUpBridge registry) (setUpBridge registry) fun bridge other s t =>
        other = bridge.map (Locking.Bridge.rename c.naming) ∧
          Abreast (Beside c first second) shelves s t := by
  unfold setUpBridge
  have made : Pair (fun s t => (s.registry registry).lockCount = (t.registry registry).lockCount ∧
        Abreast (Beside c first second) shelves s t)
      (Process.onPlatform (Locking.Bridge.setup registry))
      (Process.onPlatform (Locking.Bridge.setup registry)) fun made other s t =>
        other = made.map (Locking.Bridge.rename c.naming) ∧
          Abreast (Beside c first second) shelves s t := by
    intro s t ⟨locks, abreast⟩
    obtain ⟨firstPool, secondPool, parallel⟩ := abreast.platforms
    obtain ⟨same, beside⟩ := Locking.Bridge.paired_setup memory registry _ _ ⟨locks, parallel⟩
    exact ⟨same, { abreast with platforms := beside }⟩
  refine Pair.bind_map made fun made => ?_
  cases made with
  | ok bridge => exact .pure fun _ _ abreast => ⟨rfl, abreast⟩
  | error cause => exact .bind Abreast.note fun _ _ => .pure fun _ _ abreast => ⟨rfl, abreast⟩

include steady

theorem paired_enterCompliance :
    Pair (Abreast (Beside c first second) shelves) (enterCompliance options)
      (enterCompliance options) fun compliant other s t =>
        other = compliant ∧ Abreast (Beside c first second) shelves s t := by
  unfold enterCompliance
  refine Pair.ite (fun _ => ?_) fun _ => .pure fun _ _ abreast => ⟨rfl, abreast⟩
  refine Pair.bind_map
    (Abreast.beside fun _ => Compliance.paired_enter steady.compliance) fun entered => ?_
  cases entered with
  | ok _ => exact .pure fun _ _ abreast => ⟨rfl, abreast⟩
  | error cause => exact .bind Abreast.note fun _ _ => .pure fun _ _ abreast => ⟨rfl, abreast⟩

theorem paired_attachHardwareRandom :
    Pair (Abreast (Beside c first second) shelves) (attachHardwareRandom options)
      (attachHardwareRandom options) fun random other s t =>
        other = random.map (Engine.HardwareRandom.rename c.naming) ∧
          (∀ attached, random = some attached → attached.handle.api.Steady c.worlds) ∧
          Abreast (Beside c first second) shelves s t := by
  unfold attachHardwareRandom
  refine Pair.ite (fun _ => ?_) fun _ => .pure fun _ _ abreast => ⟨rfl, nofun, abreast⟩
  refine Pair.bind_map (Abreast.beside_given fun _ =>
    Engine.HardwareRandom.paired_attach steady.engines) fun attached => Pair.given fun kept => ?_
  cases attached with
  | ok random =>
    refine .pure fun _ _ abreast => ⟨rfl, ?_, abreast⟩
    rintro _ ⟨⟩
    rw [kept random rfl]
    exact steady.engines
  | error cause =>
    exact .bind Abreast.note fun _ _ => .pure fun _ _ abreast => ⟨rfl, nofun, abreast⟩

theorem paired_createGenerator :
    Pair (Abreast (Beside c first second) shelves) (createGenerator options.backends.generators)
      (createGenerator options.backends.generators) fun generator other s t =>
        ∃ generators otherGenerators,
          Option.Rel (SoleGenerator c { shelves with generators, otherGenerators })
            generator other ∧
          Abreast (Beside c first second) { shelves with generators, otherGenerators } s t := by
  unfold createGenerator
  refine Pair.bind_map (Abreast.beside fun _ => Parallel.consult steady.generators)
    fun created => ?_
  cases created with
  | error cause =>
    refine Pair.bind (Abreast.lift_unit (Beside.record rfl)) fun _ _ => ?_
    exact .bind Abreast.note fun _ _ => .pure fun _ _ abreast => ⟨_, _, .none, abreast⟩
  | ok generator =>
    refine Pair.bind_map (Abreast.beside fun _ => Parallel.fresh_number) fun number => ?_
    refine Pair.bind (Abreast.lift_unit (Beside.record rfl)) fun _ _ => ?_
    intro s t abreast
    refine ⟨shelves.generators ++ [⟨generator, number, 1⟩],
      shelves.otherGenerators ++ [⟨generator, c.naming number, 1⟩], .some ?_, ?_⟩
    · refine ⟨⟨generator, number, 1⟩, rfl, ?_, ?_⟩
      · simp [abreast.generators]
      · simp [abreast.otherGenerators, SharedGenerator.rename]
    · refine ⟨abreast.platforms, abreast.suites, abreast.otherSuites, ?_, ?_⟩
      · exact congrArg (· ++ [_]) abreast.generators
      · exact congrArg (· ++ [_]) abreast.otherGenerators

theorem paired_bringUpHardware :
    Pair (Abreast (Beside c first second) shelves) (bringUpHardware options)
      (bringUpHardware options) fun hardware other s t =>
        other = hardware.map (Command.Hardware.rename c.naming) ∧
          (∀ context, hardware = some context → context.Steady c.worlds) ∧
          Abreast (Beside c first second) shelves s t := by
  unfold bringUpHardware
  cases options.config.transport with
  | none => exact .pure fun _ _ abreast => ⟨rfl, steady_of_none, abreast⟩
  | some spec =>
    refine Pair.bind_map (Abreast.beside_given fun _ =>
      Command.Hardware.paired_bringUp steady.memory steady.modules _ spec) fun built =>
        Pair.given fun kept => ?_
    cases built with
    | ok hardware =>
      refine .pure fun _ _ abreast => ⟨rfl, ?_, abreast⟩
      rintro _ ⟨⟩
      exact kept hardware rfl
    | error cause =>
      exact .bind Abreast.note fun _ _ => .pure fun _ _ abreast => ⟨rfl, steady_of_none, abreast⟩

theorem paired_attachSuite :
    Pair (Abreast (Beside c first second) shelves) (attachSuite options) (attachSuite options)
      fun suite other s t => ∃ suites otherSuites,
        Option.Rel (SoleSuite c { shelves with suites, otherSuites }) suite other ∧
          Abreast (Beside c first second) { shelves with suites, otherSuites } s t := by
  unfold attachSuite
  cases options.config.alternateSuite with
  | none => exact .pure fun _ _ abreast => ⟨_, _, .none, abreast⟩
  | some config =>
    refine Pair.bind_map (Abreast.beside_given fun _ =>
      Engine.Suite.paired_attach steady.engines config) fun attached => Pair.given fun kept => ?_
    cases attached with
    | error cause =>
      exact .bind Abreast.note fun _ _ => .pure fun _ _ abreast => ⟨_, _, .none, abreast⟩
    | ok suite =>
      intro s t abreast
      refine ⟨shelves.suites ++ [⟨suite, 1⟩],
        shelves.otherSuites ++ [⟨suite.rename c.naming, 1⟩], .some ?_, ?_⟩
      · refine ⟨⟨suite, 1⟩, rfl, ?_, ?_, ?_⟩
        · rw [kept suite rfl]
          exact steady.engines
        · simp [abreast.suites]
        · simp [abreast.otherSuites, SharedSuite.rename]
      · refine ⟨abreast.platforms, ?_, ?_, abreast.generators, abreast.otherGenerators⟩
        · exact congrArg (· ++ [_]) abreast.suites
        · exact congrArg (· ++ [_]) abreast.otherSuites

/-- The instances that are built in two runs are twins. -/
theorem paired_build :
    Pair (fun s t => (s.registry options.backends.registry).lockCount =
          (t.registry options.backends.registry).lockCount ∧
        Abreast (Beside c first second) shelves s t)
      (build options) (build options) fun owned other s t =>
        ∃ shelves, Twins c shelves owned other ∧
          Abreast (Beside c first second) shelves s t := by
  unfold build
  refine Pair.bind_map (paired_setUpBridge steady.memory options.backends.registry) fun bridge => ?_
  refine Pair.bind_map (paired_enterCompliance steady) fun compliant => ?_
  -- If the mode is refused, or there is no generator, both runs stop here with what they have.
  cases compliant with
  | none =>
    refine .pure fun _ _ abreast => ⟨_, ?_, abreast⟩
    exact ⟨rfl, rfl, rfl, nofun, .none, rfl, steady_of_none, .none⟩
  | some compliant =>
    refine Pair.bind_map (paired_attachHardwareRandom steady) fun random =>
      Pair.given fun steadyRandom => ?_
    refine Pair.bind (paired_createGenerator steady) fun generator otherGenerator => ?_
    refine Pair.exists_intro fun generators => Pair.exists_intro fun otherGenerators => ?_
    refine Pair.given fun sole => ?_
    cases sole with
    | none =>
      refine .pure fun _ _ abreast => ⟨_, ?_, abreast⟩
      exact ⟨rfl, rfl, rfl, steadyRandom, .none, rfl, steady_of_none, .none⟩
    | some sole =>
      refine Pair.bind_map (paired_bringUpHardware steady) fun hardware =>
        Pair.given fun steadyHardware => ?_
      refine Pair.bind (paired_attachSuite steady) fun suite otherSuite => ?_
      refine Pair.exists_intro fun suites => Pair.exists_intro fun otherSuites => ?_
      refine Pair.given fun soleSuite => ?_
      refine .pure fun _ _ abreast => ⟨_, ?_, abreast⟩
      exact ⟨rfl, rfl, rfl, steadyRandom, .some sole, rfl, steadyHardware, soleSuite⟩

end

/-! Taking twins down. -/

theorem dismissSuite_sole {s : Process ω} {number : Nat} {shared : SharedSuite ω}
    (found : s.suites[number]? = some shared) (alone : shared.holders = 1) :
    dismissSuite number s =
      Process.onPlatform shared.suite.drop (setSuiteHolders number 0 s).2 := by
  rw [dismissSuite_eq, found]
  dsimp only
  rw [if_neg (by omega), releaseSuite_of_last found alone]

theorem releaseGenerator_sole {s : Process ω} {number : Nat} {shared : SharedGenerator ω}
    (found : s.generators[number]? = some shared) (alone : shared.holders = 1) :
    releaseGenerator number s =
      Process.onPlatform (Platform.record shared.generator.reported (.generatorDrop shared.number))
        (setGeneratorHolders number 0 s).2 := by
  rw [releaseGenerator_eq, found]
  dsimp only
  rw [if_pos alone, alone]

theorem paired_dropSuite {number other : Option Nat}
    (sole : Option.Rel (SoleSuite c shelves) number other) :
    Pair (Abreast (Parallel c outset) shelves) (number.forM dismissSuite) (other.forM dismissSuite)
      fun _ _ s t => ∃ suites otherSuites,
        Abreast (Parallel c outset) { shelves with suites, otherSuites } s t := by
  cases sole with
  | none => exact .pure fun _ _ abreast => ⟨_, _, abreast⟩
  | @some place otherPlace sole =>
    obtain ⟨shared, alone, steady, found, otherFound⟩ := sole
    have otherAlone : (shared.rename c.naming).holders = 1 := alone
    intro s t abreast
    change ∃ suites otherSuites, Abreast _ _ (dismissSuite place s).2 (dismissSuite otherPlace t).2
    rw [dismissSuite_sole (abreast.suites ▸ found) alone,
      dismissSuite_sole (abreast.otherSuites ▸ otherFound) otherAlone]
    refine ⟨(setSuiteHolders place 0 s).2.suites, (setSuiteHolders otherPlace 0 t).2.suites, ?_⟩
    apply Abreast.lift_unit (Engine.Handle.paired_drop steady)
    exact ⟨abreast.platforms, rfl, rfl, abreast.generators, abreast.otherGenerators⟩

theorem paired_dropGenerator {number other : Option Nat}
    (sole : Option.Rel (SoleGenerator c shelves) number other) :
    Pair (Abreast (Parallel c outset) shelves) (number.forM releaseGenerator)
      (other.forM releaseGenerator) fun _ _ s t => ∃ generators otherGenerators,
        Abreast (Parallel c outset) { shelves with generators, otherGenerators } s t := by
  cases sole with
  | none => exact .pure fun _ _ abreast => ⟨_, _, abreast⟩
  | @some place otherPlace sole =>
    obtain ⟨shared, alone, found, otherFound⟩ := sole
    have otherAlone : (shared.rename c.naming).holders = 1 := alone
    intro s t abreast
    change ∃ generators otherGenerators,
      Abreast _ _ (releaseGenerator place s).2 (releaseGenerator otherPlace t).2
    rw [releaseGenerator_sole (abreast.generators ▸ found) alone,
      releaseGenerator_sole (abreast.otherGenerators ▸ otherFound) otherAlone]
    refine ⟨(setGeneratorHolders place 0 s).2.generators,
      (setGeneratorHolders otherPlace 0 t).2.generators, ?_⟩
    apply Abreast.lift_unit (Parallel.record rfl)
    exact ⟨abreast.platforms, abreast.suites, abreast.otherSuites, rfl, rfl⟩

theorem paired_dropHardware (overlooks : c.Overlooks)
    {hardware other : Option (Command.Hardware ω)}
    (renamed : other = hardware.map (Command.Hardware.rename c.naming))
    (steady : ∀ context, hardware = some context → context.Steady c.worlds) :
    Pair (Abreast (Parallel c outset) shelves)
      (hardware.forM fun hardware => Process.onPlatform hardware.drop)
      (other.forM fun hardware => Process.onPlatform hardware.drop)
      fun _ _ => Abreast (Parallel c outset) shelves := by
  subst renamed
  cases hardware with
  | none => exact .pure fun _ _ abreast => abreast
  | some hardware =>
    exact Abreast.lift_unit (Command.Hardware.paired_drop overlooks (steady hardware rfl))

theorem paired_dropRandom {random other : Option (Engine.HardwareRandom ω)}
    (renamed : other = random.map (Engine.HardwareRandom.rename c.naming))
    (steady : ∀ attached, random = some attached → attached.handle.api.Steady c.worlds) :
    Pair (Abreast (Parallel c outset) shelves)
      (random.forM fun random => Process.onPlatform random.drop)
      (other.forM fun random => Process.onPlatform random.drop)
      fun _ _ => Abreast (Parallel c outset) shelves := by
  subst renamed
  cases random with
  | none => exact .pure fun _ _ abreast => abreast
  | some random =>
    exact Abreast.lift_unit (Engine.Handle.paired_drop (steady random rfl))

/-- Twins are taken down alike, if the bridge of each owns the pool that is published. -/
theorem paired_destroy (overlooks : c.Overlooks) {owned other : Subsystems ω}
    (twins : Twins c shelves owned other)
    (pool : ∀ bridge, owned.lockBridge = some bridge →
      outset.firstPool.map (·.share) = bridge.share)
    (otherPool : ∀ bridge, other.lockBridge = some bridge →
      outset.secondPool.map (·.share) = bridge.share) :
    Pair (Abreast (Parallel c outset) shelves) (destroy owned) (destroy other) fun _ _ s t =>
      Beside c outset.first outset.second s.toPlatform t.toPlatform := by
  unfold destroy
  refine Pair.bind (paired_dropSuite twins.suite) fun _ _ => ?_
  refine Pair.exists_intro fun suites => Pair.exists_intro fun otherSuites => ?_
  refine Pair.bind (paired_dropHardware overlooks twins.hardware twins.steadyHardware) fun _ _ => ?_
  refine Pair.bind (paired_dropGenerator twins.generator) fun _ _ => ?_
  refine Pair.exists_intro fun generators => Pair.exists_intro fun otherGenerators => ?_
  refine Pair.bind (paired_dropRandom twins.hardwareRandom twins.steadyRandom) fun _ _ => ?_
  cases present : owned.lockBridge with
  | none =>
    rw [twins.lockBridge, present]
    exact .pure fun _ _ abreast => ⟨_, _, abreast.platforms⟩
  | some bridge =>
    have same : other.lockBridge = some (bridge.rename c.naming) := by
      rw [twins.lockBridge, present]
      rfl
    rw [same]
    have torn := Locking.Bridge.paired_teardown (pool bridge present) (otherPool _ same)
    exact fun s t abreast => torn _ _ abreast.platforms

end Factory

end CryptoProvider
