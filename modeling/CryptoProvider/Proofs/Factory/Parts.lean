import CryptoProvider.Factory.Lifecycle
import CryptoProvider.Proofs.Factory.Attempts
import CryptoProvider.Proofs.Ledger.Callees

/-!
The parts of an instance. Building goes through them in order and attempts those that are wanted and
whose needs are met; the instance has the attempted parts that came up, and nobody else was called.
-/

set_option autoImplicit false

namespace CryptoProvider.Factory

variable {ω : Type}

inductive Part where
  | bridge
  | compliance
  | hardwareRandom
  | generator
  | hardware
  | suite
  deriving DecidableEq, Repr

namespace Part

/-- The parts, in the order of building. -/
def all : List Part :=
  [bridge, compliance, hardwareRandom, generator, hardware, suite]

def wanted (config : Config) : Part → Bool
  | bridge | generator => true
  | compliance => config.compliance
  | hardwareRandom => config.hardwareRandom
  | hardware => config.transport.isSome
  | suite => config.alternateSuite.isSome

/-- The parts that a part cannot do without, where they are wanted. -/
def needs : Part → List Part
  | bridge | compliance => []
  | hardwareRandom | generator => [compliance]
  | hardware | suite => [compliance, generator]

def callee : Part → Collaborator
  | bridge => .locking
  | compliance => .compliance
  | hardwareRandom | suite => .engines
  | generator => .generators
  | hardware => .modules

def trial [Memory ω] (options : Options ω) : Part → Trial ω Unit
  | bridge => Trial.bridge options.backends.registry
  | compliance => Trial.compliance options.backends.compliance
  | hardwareRandom => Trial.hardwareRandom options.backends.engines
  | generator => Trial.generator options.backends.generators
  | hardware => do
    let spec ← Trial.need options.config.transport
    Trial.hardware options.backends.modules options.config.commandLibrary spec
  | suite => do
    let config ← Trial.need options.config.alternateSuite
    Trial.suite options.backends.engines config

def attempt [Memory ω] (options : Options ω) : Part → StateM (Process ω) Unit
  | bridge => discard (setUpBridge options.backends.registry)
  | compliance => discard (enterCompliance options)
  | hardwareRandom => discard (attachHardwareRandom options)
  | generator => discard (createGenerator options.backends.generators)
  | hardware => discard (bringUpHardware options)
  | suite => discard (attachSuite options)

end Part

def bringUp [Memory ω] (options : Options ω) (parts : List Part) (s : Process ω) : Process ω :=
  parts.foldl (fun s part => (part.attempt options s).2) s

/-- The process when a part's turn comes, if it does. -/
def turn [Memory ω] (options : Options ω) (s : Process ω) (part : Part) : Process ω :=
  bringUp options (Part.all.takeWhile (· ≠ part)) s

def comesUp [Memory ω] (options : Options ω) (s : Process ω) (part : Part) : Bool :=
  (part.trial options).succeeds (turn options s part).toPlatform

/-- Whether a part has all that it needs, by what comes up. -/
def reached (config : Config) (up : Part → Bool) (part : Part) : Bool :=
  part.needs.all fun needed => !needed.wanted config || up needed

def attempted (config : Config) (up : Part → Bool) (part : Part) : Bool :=
  part.wanted config && reached config up part

def Subsystems.has (owned : Subsystems ω) : Part → Bool
  | .bridge => owned.lockBridge.isSome
  | .compliance => owned.compliant
  | .hardwareRandom => owned.hardwareRandom.isSome
  | .generator => owned.generator.isSome
  | .hardware => owned.hardware.isSome
  | .suite => owned.suite.isSome

/-- Whether an instance has a part, and shows it where it can. -/
def hasPart (s : Process ω) (number : Nat) : Part → Bool
  | .bridge => (subsystems? s number).any (·.lockBridge.isSome)
  | .compliance => (capabilities s number).compliant
  | .hardwareRandom => (capabilities s number).hardwareRandom
  | .generator => (subsystems? s number).any (·.generator.isSome)
  | .hardware => (capabilities s number).hardware
  | .suite => (capabilities s number).suite

theorem hasPart_of_owns {s : Process ω} {number : Nat} {owned : Subsystems ω}
    (owns : subsystems? s number = some owned) (part : Part) :
    hasPart s number part = owned.has part := by
  cases part with
  | bridge | generator => rw [hasPart, owns]; rfl
  | _ => rw [hasPart, capabilities, owns]; rfl

section

variable {γ δ ε : Type} {program : StateM (Platform ω) (Except Error γ)}

-- What an answer says, if it is the same for all results and the same for all failures.
theorem answer_tried {rest : Except Error γ → StateM (Process ω) δ} (view : δ → ε) {good bad : ε}
    (keeps : ∀ value s, view (rest (.ok value) s).1 = good)
    (leaves : ∀ cause s, view (rest (.error cause) s).1 = bad) (s : Process ω) :
    view ((Process.onPlatform program >>= rest) s).1 =
      if (program s.toPlatform).1.isOk then good else bad := by
  change view (rest (program s.toPlatform).1 _).1 = _
  cases (program s.toPlatform).1 with
  | error cause => exact leaves cause _
  | ok value => exact keeps value _

theorem isSome_tried {rest : Except Error γ → StateM (Process ω) (Option δ)}
    (keeps : ∀ value s, (rest (.ok value) s).1.isSome = true)
    (leaves : ∀ cause s, (rest (.error cause) s).1.isSome = false) (s : Process ω) :
    ((Process.onPlatform program >>= rest) s).1.isSome = (program s.toPlatform).1.isOk := by
  rw [answer_tried Option.isSome keeps leaves]
  cases (program s.toPlatform).1.isOk with
  | false => rfl
  | true => rfl

end

variable (options : Options ω) (s : Process ω)

theorem isSome_setUpBridge [Memory ω] :
    (setUpBridge options.backends.registry s).1.isSome =
      (Part.bridge.trial options).succeeds s.toPlatform :=
  (isSome_tried (fun _ _ => rfl) (fun _ _ => rfl) s).trans (Locking.Bridge.isOk_setup _ _)

theorem enterCompliance_eq [Memory ω] :
    (enterCompliance options s).1 =
      if options.config.compliance then
        if (Part.compliance.trial options).succeeds s.toPlatform then some true else none
      else some false := by
  have same := (Compliance.tracks_enter options.backends.compliance).succeeds s.toPlatform
  unfold enterCompliance Part.trial
  cases options.config.compliance with
  | false => rfl
  | true =>
    rw [← same]
    exact answer_tried id (fun _ _ => rfl) (fun _ _ => rfl) s

theorem isSome_attachHardwareRandom [Memory ω] :
    (attachHardwareRandom options s).1.isSome =
      (options.config.hardwareRandom &&
        (Part.hardwareRandom.trial options).succeeds s.toPlatform) := by
  unfold attachHardwareRandom
  cases options.config.hardwareRandom with
  | false => rfl
  | true =>
    refine (isSome_tried (fun _ _ => rfl) (fun _ _ => rfl) s).trans ?_
    exact (Engine.HardwareRandom.tracks_attach _).succeeds _

theorem isSome_createGenerator [Memory ω] :
    (createGenerator options.backends.generators s).1.isSome =
      (Part.generator.trial options).succeeds s.toPlatform :=
  (isSome_tried (fun _ _ => rfl) (fun _ _ => rfl) s).trans (Trial.succeeds_must _ _).symm

theorem isSome_bringUpHardware [Memory ω] :
    (bringUpHardware options s).1.isSome =
      (options.config.transport.isSome &&
        (Part.hardware.trial options).succeeds s.toPlatform) := by
  unfold bringUpHardware Part.trial
  cases options.config.transport with
  | none => rfl
  | some spec =>
    refine (isSome_tried (fun _ _ => rfl) (fun _ _ => rfl) s).trans ?_
    exact (Command.Hardware.tracks_bringUp _ _ _).succeeds _

theorem isSome_attachSuite [Memory ω] :
    (attachSuite options s).1.isSome =
      (options.config.alternateSuite.isSome &&
        (Part.suite.trial options).succeeds s.toPlatform) := by
  unfold attachSuite Part.trial
  cases options.config.alternateSuite with
  | none => rfl
  | some config =>
    refine (isSome_tried (fun _ _ => rfl) (fun _ _ => rfl) s).trans ?_
    exact (Engine.Suite.tracks_attach _ _).succeeds _

/-- The three ways in which building ends: compliance was refused, there was no generator, or all
parts had their turn. -/
inductive Ending [Memory ω] : Subsystems ω × Process ω → Prop where
  | refused (entered : (enterCompliance options (turn options s .compliance)).1 = none) :
      Ending (⟨(setUpBridge options.backends.registry s).1, false, none, none, none, none⟩,
        turn options s .hardwareRandom)
  | stopped (compliant : Bool)
      (entered : (enterCompliance options (turn options s .compliance)).1 = some compliant)
      (failed : (createGenerator options.backends.generators (turn options s .generator)).1 = none) :
      Ending (⟨(setUpBridge options.backends.registry s).1, compliant,
        (attachHardwareRandom options (turn options s .hardwareRandom)).1, none, none, none⟩,
        turn options s .hardware)
  | complete (compliant : Bool) (generator : Nat)
      (entered : (enterCompliance options (turn options s .compliance)).1 = some compliant)
      (made : (createGenerator options.backends.generators (turn options s .generator)).1 =
        some generator) :
      Ending (⟨(setUpBridge options.backends.registry s).1, compliant,
        (attachHardwareRandom options (turn options s .hardwareRandom)).1, some generator,
        (bringUpHardware options (turn options s .hardware)).1,
        (attachSuite options (turn options s .suite)).1⟩, bringUp options Part.all s)

theorem ending_build [Memory ω] : Ending options s (build options s) := by
  unfold build
  simp only [bind_apply]
  cases entered : (enterCompliance options (setUpBridge options.backends.registry s).2).1 with
  | none => exact .refused entered
  | some compliant =>
    simp only [bind_apply]
    cases made : (createGenerator options.backends.generators (attachHardwareRandom options
        (enterCompliance options (setUpBridge options.backends.registry s).2).2).2).1 with
    | none => exact .stopped compliant entered made
    | some generator => exact .complete compliant generator entered made

section

variable {options s}

theorem of_refused [Memory ω]
    (entered : (enterCompliance options (turn options s .compliance)).1 = none) :
    options.config.compliance = true ∧ comesUp options s .compliance = false := by
  have answer : _ = if options.config.compliance then
      if comesUp options s .compliance then some true else none else some false :=
    enterCompliance_eq options (turn options s .compliance)
  rw [entered] at answer
  cases wanted : options.config.compliance with
  | false =>
    rw [wanted] at answer
    cases answer
  | true =>
    cases up : comesUp options s .compliance with
    | false => exact ⟨rfl, rfl⟩
    | true =>
      rw [wanted, up] at answer
      cases answer

theorem of_entered [Memory ω] {compliant : Bool}
    (entered : (enterCompliance options (turn options s .compliance)).1 = some compliant) :
    compliant = (options.config.compliance && comesUp options s .compliance) ∧
      (!options.config.compliance || comesUp options s .compliance) = true := by
  have answer : _ = if options.config.compliance then
      if comesUp options s .compliance then some true else none else some false :=
    enterCompliance_eq options (turn options s .compliance)
  rw [entered] at answer
  cases wanted : options.config.compliance with
  | false =>
    rw [wanted] at answer
    cases answer
    exact ⟨rfl, rfl⟩
  | true =>
    cases up : comesUp options s .compliance with
    | false =>
      rw [wanted, up] at answer
      cases answer
    | true =>
      rw [wanted, up] at answer
      cases answer
      exact ⟨rfl, rfl⟩

end

-- An instance has the parts that were attempted and came up.
theorem has_build [Memory ω] (part : Part) :
    (build options s).1.has part =
      (attempted options.config (comesUp options s) part && comesUp options s part) := by
  have bridge : _ = comesUp options s .bridge := isSome_setUpBridge options s
  have random : _ = (_ && comesUp options s .hardwareRandom) :=
    isSome_attachHardwareRandom options (turn options s .hardwareRandom)
  have generator : _ = comesUp options s .generator :=
    isSome_createGenerator options (turn options s .generator)
  have hardware : _ = (_ && comesUp options s .hardware) :=
    isSome_bringUpHardware options (turn options s .hardware)
  have suite : _ = (_ && comesUp options s .suite) :=
    isSome_attachSuite options (turn options s .suite)
  have ending := ending_build options s
  generalize build options s = result at ending
  cases ending with
  | refused entered =>
    obtain ⟨wanted, up⟩ := of_refused entered
    cases part <;>
      simp [Subsystems.has, attempted, reached, Part.wanted, Part.needs, bridge, wanted, up]
  | stopped compliant entered failed =>
    obtain ⟨rfl, up⟩ := of_entered entered
    have down : comesUp options s .generator = false := by rw [← generator, failed]; rfl
    cases part <;>
      simp [Subsystems.has, attempted, reached, Part.wanted, Part.needs, bridge, random, up, down]
  | complete compliant number entered made =>
    obtain ⟨rfl, up⟩ := of_entered entered
    have came : comesUp options s .generator = true := by rw [← generator, made]; rfl
    cases part <;>
      simp [Subsystems.has, attempted, reached, Part.wanted, Part.needs, bridge, random, hardware,
        suite, up, came]

end CryptoProvider.Factory
