import CryptoProvider.Proofs.Command.BringUp
import CryptoProvider.Proofs.Factory.Passing
import CryptoProvider.Proofs.Locking.Setup
import CryptoProvider.Proofs.Renaming.Platform

/-!
A reset puts the shared slots back. Whatever came up when an instance was built, and whatever failed
to, taking the instance down leaves the slots with what they held before it was built; so they hold
that whenever no instance is live, as long as nobody else changes them.
-/

set_option autoImplicit false

namespace CryptoProvider

open Ledger

variable {ω : Type} {past : List Act} {contents : Slots ω}

-- A callback that is put into an empty slot and taken out again leaves no trace.
theorem Ledger.Slots.setCallback_restored {number : Nat}
    (locks : (contents.registry number).threadSafe = false)
    (vacant : (contents.registry number).callback = none) (callback : Option Locking.Callback) :
    (contents.setCallback number callback).setCallback number none = contents := by
  cases found : contents.registries[number]? with
  | none => simp [Slots.registry, List.getD_eq_getElem?_getD, found] at locks
  | some registry =>
    simp only [Slots.registry, List.getD_eq_getElem?_getD, found, Option.getD_some] at vacant
    have same : (contents.registries.modify number fun r => { r with callback }).modify number
        (fun r => { r with callback := none }) = contents.registries :=
      Factory.modify_restored found (by rw [← vacant])
    exact congrArg (Slots.mk contents.transport contents.pool) same

namespace Factory

variable {frame : Process ω}

/-- The shared slots hold something, and the instances are those of another process. -/
structure Holds (frame : Process ω) (contents : Slots ω) (s : Process ω) : Prop where
  held : slots s.toPlatform = contents
  owned : subsystems? s = subsystems? frame
  length : s.instances.length = frame.instances.length
  current : s.current = frame.current

namespace Holds

variable {α : Type} {operation : StateM (Platform ω) α}

theorem lift {after : α → Slots ω → Prop}
    (spec : ∀ past, Ensures (Told past contents) operation fun value s => after value (slots s)) :
    Ensures (Holds frame contents) (Process.onPlatform operation) fun value s =>
      ∃ changed, after value changed ∧ Holds frame changed s :=
  fun s holds => ⟨_, spec s.acts s.toPlatform ⟨rfl, holds.held⟩,
    ⟨rfl, holds.owned, holds.length, holds.current⟩⟩

theorem turn {after : Slots ω}
    (spec : ∀ past, Ensures (Told past contents) operation fun _ s => slots s = after) :
    Ensures (Holds frame contents) (Process.onPlatform operation) fun _ => Holds frame after :=
  fun s holds => ⟨spec s.acts s.toPlatform ⟨rfl, holds.held⟩, holds.owned, holds.length,
    holds.current⟩

theorem reshelved {s t : Process ω} (holds : Holds frame contents s) (reshelved : Reshelved s t) :
    Holds frame contents t where
  held := reshelved.slots.trans holds.held
  owned := reshelved.owned.trans holds.owned
  length := reshelved.length.trans holds.length
  current := reshelved.current.trans holds.current

theorem of_calm (calm : Calm operation) :
    Ensures (Holds frame contents) (Process.onPlatform operation) fun _ => Holds frame contents :=
  fun s holds => holds.reshelved (.of_calm calm s)

theorem note {notice : Notice} :
    Ensures (Holds frame contents) (Process.onPlatform (Platform.note notice)) fun _ =>
      Holds frame contents :=
  of_calm (.note _)

end Holds

theorem holds_setUpBridge [Memory ω] (registry : Nat) :
    Ensures (Holds frame contents) (setUpBridge registry) fun bridge s =>
      ∃ after, BridgeMade contents bridge after ∧ Holds frame after s := by
  have spec : ∀ past, Ensures (Told past contents) (Locking.Bridge.setup registry)
      fun made s => BridgeMade contents made.toOption (slots s) := by
    intro past s told
    have setUp := Locking.Bridge.setUp registry s
    rw [← told.2]
    cases answered : (Locking.Bridge.setup registry s).1 with
    | error cause =>
      rw [answered] at setUp
      exact setUp.slots_of_error
    | ok bridge =>
      rw [answered] at setUp
      exact ⟨registry, setUp.established⟩
  unfold setUpBridge
  refine Ensures.bind (Holds.lift spec) fun made => ?_
  refine Ensures.exists_intro fun after => Ensures.given fun bridged => ?_
  cases made with
  | ok bridge => exact Ensures.pure fun _ holds => ⟨after, bridged, holds⟩
  | error cause =>
    exact Ensures.bind Holds.note fun _ => Ensures.pure fun _ holds => ⟨after, bridged, holds⟩

theorem holds_enterCompliance (options : Options ω) :
    Ensures (Holds frame contents) (enterCompliance options) fun _ => Holds frame contents := by
  unfold enterCompliance
  split
  · refine Ensures.bind (Holds.of_calm (Compliance.calm_enter _)) fun entered => ?_
    cases entered with
    | ok _ => exact Ensures.pure fun _ holds => holds
    | error cause => exact Ensures.bind Holds.note fun _ => Ensures.pure fun _ holds => holds
  · exact Ensures.pure fun _ holds => holds

theorem holds_attachHardwareRandom (options : Options ω) :
    Ensures (Holds frame contents) (attachHardwareRandom options) fun _ =>
      Holds frame contents := by
  unfold attachHardwareRandom
  split
  · refine Ensures.bind (Holds.of_calm (Engine.HardwareRandom.calm_attach _)) fun attached => ?_
    cases attached with
    | ok _ => exact Ensures.pure fun _ holds => holds
    | error cause => exact Ensures.bind Holds.note fun _ => Ensures.pure fun _ holds => holds
  · exact Ensures.pure fun _ holds => holds

theorem holds_createGenerator (source : GeneratorSource ω) :
    Ensures (Holds frame contents) (createGenerator source) fun _ => Holds frame contents := by
  unfold createGenerator
  refine Ensures.bind (Holds.of_calm (.consult _)) fun created => ?_
  cases created with
  | ok generator =>
    refine Ensures.bind (Holds.of_calm .fresh) fun number => ?_
    refine Ensures.bind (Holds.of_calm (.record _ _)) fun _ => ?_
    exact fun _ holds => ⟨holds.held, holds.owned, holds.length, holds.current⟩
  | error cause =>
    refine Ensures.bind (Holds.of_calm (.record _ _)) fun _ => ?_
    exact Ensures.bind Holds.note fun _ => Ensures.pure fun _ holds => holds

theorem holds_attachSuite (options : Options ω) :
    Ensures (Holds frame contents) (attachSuite options) fun _ => Holds frame contents := by
  unfold attachSuite
  cases options.config.alternateSuite with
  | none => exact Ensures.pure fun _ holds => holds
  | some config =>
    refine Ensures.bind (Holds.of_calm (Engine.Suite.calm_attach _ _)) fun attached => ?_
    cases attached with
    | ok suite => exact fun _ holds => ⟨holds.held, holds.owned, holds.length, holds.current⟩
    | error cause => exact Ensures.bind Holds.note fun _ => Ensures.pure fun _ holds => holds

/-- What a hardware context that came up, if there is one, made of the shared slots. -/
def HardwareMade (before : Slots ω) (hardware : Option (Command.Hardware ω)) (after : Slots ω) :
    Prop :=
  match hardware with
  | some hardware => before.transport = none ∧ hardware.Whole ∧
      ∃ loaded, after = { before with transport := some loaded }
  | none => after = before

theorem HardwareMade.pool {before after : Slots ω} {hardware : Option (Command.Hardware ω)}
    (made : HardwareMade before hardware after) : after.pool = before.pool := by
  cases hardware with
  | none => exact congrArg Slots.pool made
  | some hardware =>
    obtain ⟨-, -, loaded, rfl⟩ := made
    rfl

theorem holds_bringUpHardware [Memory ω] (options : Options ω) :
    Ensures (Holds frame contents) (bringUpHardware options) fun hardware s =>
      ∃ after, HardwareMade contents hardware after ∧ Holds frame after s := by
  unfold bringUpHardware
  cases options.config.transport with
  | none => exact Ensures.pure fun _ holds => ⟨contents, rfl, holds⟩
  | some spec =>
    have spec : ∀ past, Ensures (Told past contents)
        (Command.Hardware.bringUp options.backends.modules options.config.commandLibrary spec)
        fun broughtUp s => HardwareMade contents broughtUp.toOption (slots s) := by
      intro past
      refine Ensures.weaken (Command.Hardware.told_bringUp _ _ spec) fun broughtUp s told => ?_
      cases broughtUp with
      | error cause =>
        obtain ⟨acts, _, told⟩ := told
        exact told.2
      | ok hardware =>
        obtain ⟨empty, ⟨command, transport, bound⟩, filled⟩ := told
        exact ⟨empty, bound.whole, filled⟩
    refine Ensures.bind (Holds.lift spec) fun broughtUp => ?_
    refine Ensures.exists_intro fun after => Ensures.given fun made => ?_
    cases broughtUp with
    | ok hardware => exact Ensures.pure fun _ holds => ⟨after, made, holds⟩
    | error cause =>
      exact Ensures.bind Holds.note fun _ => Ensures.pure fun _ holds => ⟨after, made, holds⟩

/-- What an instance made of the shared slots. -/
def Placed (before : Slots ω) (owned : Subsystems ω) (after : Slots ω) : Prop :=
  ∃ middle, BridgeMade before owned.lockBridge middle ∧ HardwareMade middle owned.hardware after

theorem Placed.whole {before after : Slots ω} {owned : Subsystems ω}
    (placed : Placed before owned after) (hardware : Command.Hardware ω)
    (present : owned.hardware = some hardware) : hardware.Whole := by
  obtain ⟨middle, -, made⟩ := placed
  rw [present] at made
  exact made.2.1

theorem holds_build [Memory ω] (options : Options ω) :
    Ensures (Holds frame contents) (build options) fun owned s =>
      ∃ after, Placed contents owned after ∧ Holds frame after s := by
  unfold build
  refine Ensures.bind (holds_setUpBridge options.backends.registry) fun bridge => ?_
  refine Ensures.exists_intro fun middle => Ensures.given fun made => ?_
  refine Ensures.bind (holds_enterCompliance options) fun compliant => ?_
  cases compliant with
  | none => exact Ensures.pure fun _ holds => ⟨middle, ⟨middle, made, rfl⟩, holds⟩
  | some compliant =>
    refine Ensures.bind (holds_attachHardwareRandom options) fun random => ?_
    refine Ensures.bind (holds_createGenerator options.backends.generators) fun generator => ?_
    cases generator with
    | none => exact Ensures.pure fun _ holds => ⟨middle, ⟨middle, made, rfl⟩, holds⟩
    | some generator =>
      refine Ensures.bind (holds_bringUpHardware options) fun hardware => ?_
      refine Ensures.exists_intro fun after => Ensures.given fun broughtUp => ?_
      refine Ensures.bind (holds_attachSuite options) fun suite => ?_
      exact Ensures.pure fun _ holds => ⟨after, ⟨middle, made, broughtUp⟩, holds⟩

/-! Taking an instance down. -/

theorem holds_releaseSuite (number : Nat) :
    Ensures (Holds frame contents) (releaseSuite number) fun _ => Holds frame contents :=
  fun s holds => holds.reshelved (reshelved_releaseSuite number s)

theorem holds_dismissSuite (number : Nat) :
    Ensures (Holds frame contents) (dismissSuite number) fun _ => Holds frame contents := by
  refine Ensures.read fun s holds => ?_
  refine Ensures.strengthen ?_ fun t (same : t = s) => same ▸ holds
  cases s.suites[number]? with
  | none => exact Ensures.pure fun _ holds => holds
  | some shared =>
    dsimp only
    split
    · exact Ensures.bind Holds.note fun _ => holds_releaseSuite number
    · exact holds_releaseSuite number

theorem holds_releaseGenerator (number : Nat) :
    Ensures (Holds frame contents) (releaseGenerator number) fun _ => Holds frame contents :=
  fun s holds => holds.reshelved (reshelved_releaseGenerator number s)

/-- A program that is run where there is something to run it on. -/
theorem holds_forM {α : Type} {object? : Option α} {act : α → StateM (Process ω) Unit}
    (calm : ∀ object, Ensures (Holds frame contents) (act object) fun _ => Holds frame contents) :
    Ensures (Holds frame contents) (object?.forM act) fun _ => Holds frame contents := by
  cases object? with
  | none => exact Ensures.pure fun _ holds => holds
  | some object => exact calm object

theorem holds_dropHardware {hardware : Option (Command.Hardware ω)}
    (whole : ∀ context, hardware = some context → context.Whole) :
    Ensures (Holds frame contents)
      (hardware.forM fun hardware => Process.onPlatform hardware.drop) fun _ =>
        Holds frame
          (if hardware.isSome then { contents with transport := none } else contents) := by
  cases hardware with
  | none => exact Ensures.pure fun _ holds => holds
  | some hardware =>
    have spec : ∀ past, Ensures (Told past contents) hardware.drop fun _ s =>
        slots s = { contents with transport := none } := by
      intro past
      refine Ensures.weaken (Command.Hardware.told_drop (whole hardware rfl)) fun _ s told => ?_
      obtain ⟨status, nested, told⟩ := told
      exact told.2
    exact Holds.turn spec

theorem holds_dropBridge {bridge : Option Locking.Bridge} :
    Ensures (Holds frame contents)
      (bridge.forM fun bridge => Process.onPlatform do
        let _ ← bridge.teardown
        return ()) fun _ =>
      Holds frame (match bridge with
        | some bridge => bridge.dismantle contents
        | none => contents) := by
  cases bridge with
  | none => exact Ensures.pure fun _ holds => holds
  | some bridge =>
    have spec : ∀ past, Ensures (Told past contents)
        (do
          let _ ← bridge.teardown
          return ()) fun _ s => slots s = bridge.dismantle contents := by
      intro past
      refine Ensures.bind (Locking.Bridge.told_teardown bridge) fun _ => ?_
      exact Ensures.pure fun _ told => told.2
    exact Holds.turn spec

theorem holds_destroy {owned : Subsystems ω}
    (whole : ∀ hardware, owned.hardware = some hardware → hardware.Whole) :
    Ensures (Holds frame contents) (destroy owned) fun _ =>
      Holds frame (owned.dismantle contents) := by
  unfold destroy Subsystems.dismantle
  refine Ensures.bind (holds_forM holds_dismissSuite) fun _ => ?_
  refine Ensures.bind (holds_dropHardware whole) fun _ => ?_
  refine Ensures.bind (holds_forM holds_releaseGenerator) fun _ => ?_
  refine Ensures.bind (holds_forM fun random => Holds.of_calm random.handle.calm_drop) fun _ => ?_
  exact holds_dropBridge

/-! Taking down undoes building. -/

theorem unloaded_of_made {before after : Slots ω} {hardware : Option (Command.Hardware ω)}
    (made : HardwareMade before hardware after) :
    (if hardware.isSome then { after with transport := none } else after) = before := by
  cases hardware with
  | none => exact made
  | some hardware =>
    obtain ⟨empty, -, loaded, rfl⟩ := made
    exact Slots.emptyTransport empty

theorem dismantle_established {number : Nat} {before after : Slots ω} {bridge : Locking.Bridge}
    (established : Locking.Bridge.Established number before bridge after)
    (unpublished : before.pool = none) : bridge.dismantle after = before := by
  have withdrawn : { before with pool := none } = before := by rw [← unpublished]
  cases established with
  | inert safe => rfl
  | deferring locks taken published =>
    simpa [Locking.Bridge.dismantle, Locking.Bridge.withdrawCallback, Locking.Bridge.ownsSlot,
      Locking.Bridge.ownsCallback] using withdrawn
  | installed locks vacant published =>
    let between : Slots ω := { before with pool := some published }
    have locked : (between.registry number).threadSafe = false := locks
    have callback := Slots.callback_setCallback_self locked (some .bridge)
    have owns : Locking.Bridge.ownsCallback
        ⟨number, some ⟨published.number, published.pool.size⟩, .installedByUs⟩
        (between.setCallback number (some .bridge)) :=
      ⟨rfl, callback, beq_self_eq_true published.number⟩
    unfold Locking.Bridge.dismantle Locking.Bridge.withdrawCallback
    rw [if_pos owns, if_pos owns.2.2, Ledger.Slots.setCallback_restored locked vacant]
    exact withdrawn

theorem dismantle_placed {before after : Slots ω} {owned : Subsystems ω}
    (placed : Placed before owned after) (unpublished : before.pool = none) :
    owned.dismantle after = before := by
  obtain ⟨middle, bridged, made⟩ := placed
  unfold Subsystems.dismantle
  rw [unloaded_of_made made]
  dsimp only
  cases present : owned.lockBridge with
  | none =>
    rw [present] at bridged
    exact bridged
  | some bridge =>
    rw [present] at bridged
    obtain ⟨registry, established⟩ := bridged
    exact dismantle_established established unpublished

end Factory

end CryptoProvider
