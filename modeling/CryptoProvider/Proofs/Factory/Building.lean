import CryptoProvider.Factory.Construction
import CryptoProvider.Proofs.Factory.Custody
import CryptoProvider.Proofs.Ledger.Bridge

/-!
Building an instance. Wherever construction stops, what came up is in hand and nothing else is
held; the shared slots were changed by the lock bridge and the hardware context that came up, and
by nothing else.
-/

set_option autoImplicit false

namespace CryptoProvider.Factory

open Ledger

variable {ω : Type} {hand : Custody ω} {contents : Slots ω}

/-- What a lock bridge that was set up, if there is one, made of the shared slots. -/
def BridgeMade (before : Slots ω) (bridge : Option Locking.Bridge) (after : Slots ω) : Prop :=
  match bridge with
  | some bridge => ∃ registry, Locking.Bridge.Established registry before bridge after
  | none => after = before

def Built (before : Slots ω) (owned : Subsystems ω) (after : Slots ω) : Prop :=
  ∃ middle transport, BridgeMade before owned.lockBridge middle ∧
    after = { middle with transport } ∧
    transport.isSome = (owned.hardware.isSome || before.transport.isSome)

/-- What is in hand together with the parts of an instance. -/
def Laden (hand : Custody ω) (owned : Subsystems ω) (laden : Custody ω) : Prop :=
  ∃ suites generators, suites.map Prod.fst = owned.suite.toList ∧
    generators.map Prod.fst = owned.generator.toList ∧
    laden = ⟨hand.current, hand.owned, hand.instances, suites ++ hand.suites,
      generators ++ hand.generators, owned.entries ++ hand.entries⟩

theorem sound_setup [Memory ω] (registry : Nat) :
    Ensures (Sound hand contents) (Process.onPlatform (Locking.Bridge.setup registry)) fun made s =>
      match made with
      | .ok bridge => ∃ after, Locking.Bridge.Established registry contents bridge after ∧
          Sound hand after s
      | .error _ => Sound hand contents s := by
  refine Sound.lift fun s standing => ?_
  refine Ensures.weaken (Locking.Bridge.books_setup registry) fun made platform books => ?_
  cases made with
  | ok bridge =>
    obtain ⟨after, established, books⟩ := books
    exact ⟨after, established, standing.onPlatform _, books⟩
  | error cause => exact ⟨standing.onPlatform _, books⟩

theorem sound_setUpBridge [Memory ω] (registry : Nat) :
    Ensures (Sound hand contents) (setUpBridge registry) fun bridge s =>
      ∃ after, BridgeMade contents bridge after ∧ Sound hand after s := by
  unfold setUpBridge
  refine Ensures.bind (sound_setup registry) fun made => ?_
  cases made with
  | ok bridge =>
    refine Ensures.exists_intro fun after => Ensures.given fun established => ?_
    exact Ensures.pure fun _ sound => ⟨after, ⟨registry, established⟩, sound⟩
  | error cause =>
    refine Ensures.bind Sound.note fun _ => ?_
    exact Ensures.pure fun _ sound => ⟨contents, rfl, sound⟩

theorem BridgeMade.transport {before after : Slots ω} {bridge : Option Locking.Bridge}
    (made : BridgeMade before bridge after) : after.transport = before.transport := by
  cases bridge with
  | none => exact congrArg Slots.transport made
  | some bridge =>
    obtain ⟨registry, established⟩ := made
    cases established <;> rfl

theorem BridgeMade.whole {before after : Slots ω} {bridge : Option Locking.Bridge}
    (made : BridgeMade before bridge after) (own : Locking.Bridge) (same : bridge = some own) :
    own.share = none ↔ own.state = .notInstalled := by
  subst same
  obtain ⟨registry, established⟩ := made
  cases established <;> simp

theorem Built.of_bridge {before after : Slots ω} {owned : Subsystems ω}
    (made : BridgeMade before owned.lockBridge after) (bare : owned.hardware = none) :
    Built before owned after :=
  ⟨after, after.transport, made, rfl, by rw [made.transport, bare]; rfl⟩

theorem sound_enterCompliance (options : Options ω) :
    Ensures (Sound hand contents) (enterCompliance options) fun _ => Sound hand contents := by
  unfold enterCompliance
  split
  · refine Ensures.bind (Sound.lift_same fun _ => Compliance.books_enter _) fun entered => ?_
    cases entered with
    | ok _ => exact Ensures.pure fun _ sound => sound
    | error cause =>
      refine Ensures.bind Sound.note fun _ => ?_
      exact Ensures.pure fun _ sound => sound
  · exact Ensures.pure fun _ sound => sound

theorem sound_attached {α : Type} {attach : StateM (Platform ω) (Except Error α)}
    {handle : α → Engine.Handle ω}
    (spec : ∀ rest, Ensures (Books rest contents) attach
      (Engine.Handle.Attached handle rest contents)) :
    Ensures (Sound hand contents) (Process.onPlatform attach) fun attached s =>
      match attached with
      | .ok attached => (handle attached).started = true ∧
          Sound (hand.addEntries [(handle attached).entry]) contents s
      | .error _ => Sound hand contents s := by
  refine Sound.lift fun s standing => ?_
  refine Ensures.weaken (spec _) fun attached platform books => ?_
  cases attached with
  | ok attached => exact ⟨books.1, Sound.of_gain standing books.2⟩
  | error cause => exact ⟨standing.onPlatform _, books⟩

def randomEntries (random : Option (Engine.HardwareRandom ω)) : List Entry :=
  (random.map fun random => random.handle.entry).toList

theorem sound_attachHardwareRandom (options : Options ω) :
    Ensures (Sound hand contents) (attachHardwareRandom options) fun random s =>
      (∀ engine, random = some engine → engine.handle.started = true) ∧
        Sound (hand.addEntries (randomEntries random)) contents s := by
  unfold attachHardwareRandom
  split
  · refine Ensures.bind (sound_attached fun _ => Engine.HardwareRandom.books_attach _)
      fun attached => ?_
    cases attached with
    | ok random =>
      refine Ensures.given fun started => Ensures.pure fun _ sound => ⟨?_, sound⟩
      intro engine same
      cases same
      exact started
    | error cause =>
      refine Ensures.bind Sound.note fun _ => ?_
      exact Ensures.pure fun _ sound => ⟨by simp, sound⟩
  · exact Ensures.pure fun _ sound => ⟨by simp, sound⟩

theorem sound_attachSuite (options : Options ω) :
    Ensures (Sound hand contents) (attachSuite options) fun suite s =>
      ∃ flights, flights.map Prod.fst = suite.toList ∧
        Sound { hand with suites := flights ++ hand.suites } contents s := by
  unfold attachSuite
  cases options.config.alternateSuite with
  | none => exact Ensures.pure fun _ sound => ⟨[], rfl, sound⟩
  | some config =>
    refine Ensures.bind (sound_attached fun _ => Engine.Suite.books_attach _ config)
      fun attached => ?_
    cases attached with
    | ok suite =>
      refine Ensures.given fun started => ?_
      refine Ensures.bind (sound_shareSuite started) fun number => ?_
      exact Ensures.pure fun _ sound => ⟨[(number, suite.handle.entry)], rfl, sound⟩
    | error cause =>
      refine Ensures.bind Sound.note fun _ => ?_
      exact Ensures.pure fun _ sound => ⟨[], rfl, sound⟩

theorem sound_createGenerator (source : GeneratorSource ω) :
    Ensures (Sound hand contents) (createGenerator source) fun generator s =>
      ∃ flights, flights.map Prod.fst = generator.toList ∧
        Sound { hand with generators := flights ++ hand.generators } contents s := by
  unfold createGenerator
  refine Ensures.bind Sound.consult fun created => ?_
  cases created with
  | ok generator =>
    refine Ensures.bind (Sound.lift_turn [] (fun number => [(number, .unused)])
      fun _ => Books.fresh) fun number => ?_
    refine Ensures.bind (Sound.lift_turn [(number, .unused)] (fun _ => [(number, .generatorMade)])
      fun _ => Books.record_one Leads.make_generator rfl) fun _ => ?_
    refine Ensures.bind (sound_shareGenerator generator number) fun place => ?_
    exact Ensures.pure fun _ sound => ⟨[(place, (number, .generatorMade))], rfl, sound⟩
  | error cause =>
    refine Ensures.bind (Sound.lift_same fun _ => Books.record_none rfl) fun _ => ?_
    refine Ensures.bind Sound.note fun _ => ?_
    exact Ensures.pure fun _ sound => ⟨[], rfl, sound⟩

theorem sound_bringUp [Memory ω] (loader : ModuleLoader ω) (libraryPath : String)
    (spec : Transport.Spec) :
    Ensures (Sound hand contents)
      (Process.onPlatform (Command.Hardware.bringUp loader libraryPath spec)) fun broughtUp s =>
        match broughtUp with
        | .ok hardware => (contents.transport = none ∧ hardware.Whole) ∧
            ∃ filling, Sound (hand.addEntries hardware.entries)
              { contents with transport := some filling } s
        | .error _ => Sound hand contents s := by
  refine Sound.lift fun s standing => ?_
  refine Ensures.weaken (Command.Hardware.books_bringUp loader libraryPath spec)
    fun broughtUp platform books => ?_
  cases broughtUp with
  | ok hardware =>
    obtain ⟨known, filling, books⟩ := books
    exact ⟨known, filling, Sound.of_gain standing books⟩
  | error cause => exact ⟨standing.onPlatform _, books⟩

def hardwareEntries (hardware : Option (Command.Hardware ω)) : List Entry :=
  (hardware.map Command.Hardware.entries).getD []

theorem sound_bringUpHardware [Memory ω] (options : Options ω) :
    Ensures (Sound hand contents) (bringUpHardware options) fun hardware s =>
      (∀ context, hardware = some context → context.Whole) ∧
        ∃ transport, transport.isSome = (hardware.isSome || contents.transport.isSome) ∧
          Sound (hand.addEntries (hardwareEntries hardware)) { contents with transport } s := by
  unfold bringUpHardware
  cases options.config.transport with
  | none => exact Ensures.pure fun _ sound => ⟨by simp, contents.transport, rfl, sound⟩
  | some spec =>
    refine Ensures.bind (sound_bringUp _ _ spec) fun broughtUp => ?_
    cases broughtUp with
    | ok hardware =>
      refine Ensures.given fun known => ?_
      refine Ensures.exists_intro fun filling => Ensures.pure fun _ sound => ?_
      refine ⟨?_, some filling, rfl, sound⟩
      intro context same
      cases same
      exact known.2
    | error cause =>
      refine Ensures.bind Sound.note fun _ => ?_
      exact Ensures.pure fun _ sound => ⟨by simp, contents.transport, rfl, sound⟩

-- What was built is whole and in hand, and the slots show it.
theorem sound_build [Memory ω] (options : Options ω) :
    Ensures (Sound hand contents) (build options) fun owned s =>
      owned.Whole ∧ ∃ after laden, Built contents owned after ∧ Laden hand owned laden ∧
        Sound laden after s := by
  unfold build
  refine Ensures.bind (sound_setUpBridge options.backends.registry) fun bridge => ?_
  refine Ensures.exists_intro fun middle => Ensures.given fun made => ?_
  refine Ensures.bind (sound_enterCompliance options) fun compliant => ?_
  cases compliant with
  | none =>
    -- Construction stops here with the bridge alone.
    refine Ensures.pure fun _ sound => ⟨⟨by simp, by simp, made.whole⟩, middle, hand, ?_, ?_, sound⟩
    · exact Built.of_bridge made rfl
    · exact ⟨[], [], rfl, rfl, rfl⟩
  | some compliant =>
    refine Ensures.bind (sound_attachHardwareRandom options) fun random => ?_
    refine Ensures.given fun started => ?_
    refine Ensures.bind (sound_createGenerator options.backends.generators) fun generator => ?_
    refine Ensures.exists_intro fun generators => Ensures.given fun counted => ?_
    cases generator with
    | none =>
      -- Without a generator it stops with the bridge and the hardware random engine.
      obtain rfl := List.map_eq_nil_iff.mp counted
      refine Ensures.pure fun _ sound => ⟨⟨by simp, started, made.whole⟩, middle, _, ?_, ?_, sound⟩
      · exact Built.of_bridge made rfl
      · exact ⟨[], [], rfl, rfl, rfl⟩
    | some generator =>
      refine Ensures.bind (sound_bringUpHardware options) fun hardware => ?_
      refine Ensures.given fun whole => ?_
      refine Ensures.exists_intro fun transport => Ensures.given fun filled => ?_
      refine Ensures.bind (sound_attachSuite options) fun suite => ?_
      refine Ensures.exists_intro fun suites => Ensures.given fun named => ?_
      refine Ensures.pure fun _ sound =>
        ⟨⟨whole, started, made.whole⟩, { middle with transport }, _, ?_, ?_, sound⟩
      · rw [made.transport] at filled
        exact ⟨middle, transport, made, rfl, filled⟩
      · refine ⟨suites, generators, named, counted, ?_⟩
        simp only [Custody.addEntries, Subsystems.entries, List.append_assoc]
        rfl

end CryptoProvider.Factory
