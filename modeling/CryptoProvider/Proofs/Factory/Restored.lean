import CryptoProvider.Proofs.Factory.Restoring
import CryptoProvider.Proofs.Locking.Service

/-!
As long as nobody interferes, the shared slots are at any time as they once were, but for what the
live instance made of them; and they are as they were again when no instance is live. Which locks of
the pool are taken, and how many locks a library asks for, is left open.
-/

set_option autoImplicit false

namespace CryptoProvider

open Ledger

variable {ω : Type}

namespace Ledger.Slots.Alike

variable {contents other : Slots ω}

theorem setTransport (alike : contents.Alike other) (transport : Option (Transport.Loaded ω)) :
    Alike { contents with transport } { other with transport } :=
  ⟨rfl, alike.share, alike.bindings⟩

theorem dismantled (alike : contents.Alike other) (owned : Factory.Subsystems ω) :
    (owned.dismantle contents).Alike (owned.dismantle other) := by
  have unloaded : Alike
      (if owned.hardware.isSome then { contents with transport := none } else contents)
      (if owned.hardware.isSome then { other with transport := none } else other) := by
    split
    · exact alike.setTransport none
    · exact alike
  unfold Factory.Subsystems.dismantle
  cases owned.lockBridge with
  | none => exact unloaded
  | some bridge => exact unloaded.dismantle bridge

end Ledger.Slots.Alike

namespace Factory

/-- The slots are as they once were, but for what the live instance made of them. -/
structure Restorable (origin : Slots ω) (s : Process ω) : Prop where
  idle : s.current = none → (slots s.toPlatform).Alike origin
  live : ∀ number, s.current = some number → ∃ owned before built,
    subsystems? s number = some owned ∧ before.Alike origin ∧ Placed before owned built ∧
      (slots s.toPlatform).Alike built

namespace Restorable

variable {origin : Slots ω} {s t : Process ω}

theorem of_idle (current : s.current = none) (alike : (slots s.toPlatform).Alike origin) :
    Restorable origin s where
  idle _ := alike
  live number live := by
    rw [current] at live
    cases live

theorem of_same (restorable : Restorable origin s)
    (alike : (slots t.toPlatform).Alike (slots s.toPlatform))
    (owned : subsystems? t = subsystems? s) (current : t.current = s.current) :
    Restorable origin t where
  idle none := alike.trans (restorable.idle (current ▸ none))
  live number live := by
    obtain ⟨parts, before, built, owns, origin, placed, same⟩ :=
      restorable.live number (current ▸ live)
    exact ⟨parts, before, built, owned ▸ owns, origin, placed, alike.trans same⟩

theorem reshelved (restorable : Restorable origin s) (reshelved : Reshelved s t) :
    Restorable origin t :=
  restorable.of_same (reshelved.slots ▸ .refl _) reshelved.owned reshelved.current

theorem onPlatform {α : Type} {operation : StateM (Platform ω) α} (restorable : Restorable origin s)
    (alike : (slots (operation s.toPlatform).2).Alike (slots s.toPlatform)) :
    Restorable origin (Process.onPlatform operation s).2 :=
  restorable.of_same alike rfl rfl

/-- A reset detaches the live instance and takes its parts down. -/
theorem holds_reset {number : Nat} {owned : Subsystems ω} (current : s.current = some number)
    (owns : subsystems? s number = some owned)
    (whole : ∀ hardware, owned.hardware = some hardware → hardware.Whole) :
    Holds (detach number s) (owned.dismantle (slots s.toPlatform)) (Factory.reset s).2 := by
  have destroyed : Ensures (Holds (detach number s) (slots s.toPlatform)) (destroy owned)
      fun _ => Holds (detach number s) (owned.dismantle (slots s.toPlatform)) :=
    holds_destroy whole
  have detached : Holds (detach number s) (slots s.toPlatform) (detach number s) :=
    ⟨rfl, rfl, rfl, rfl⟩
  rw [reset_eq current owns]
  unfold finishReset
  split
  · exact Ensures.bind Holds.note (fun _ => destroyed) _ detached
  · exact destroyed _ detached

/-- A reset puts back what the live instance changed. -/
theorem reset (restorable : Restorable origin s) (unpublished : origin.pool = none) :
    Restorable origin (Factory.reset s).2 := by
  cases current : s.current with
  | none =>
    rw [reset_of_none current]
    exact restorable
  | some number =>
    obtain ⟨owned, before, built, owns, same, placed, alike⟩ := restorable.live number current
    have finished := holds_reset current owns placed.whole
    refine of_idle finished.current ?_
    rw [finished.held]
    -- The instance is taken off the slots as they are now, which are alike to those it was put in.
    have undone := dismantle_placed placed (same.pool_eq_none unpublished)
    exact (alike.dismantled owned).trans (undone ▸ same)

/-- After a reset no instance is live, and none was forgotten. -/
theorem current_reset (restorable : Restorable origin s) :
    (Factory.reset s).2.current = none ∧
      (Factory.reset s).2.instances.length = s.instances.length := by
  cases current : s.current with
  | none =>
    rw [reset_of_none current]
    exact ⟨current, rfl⟩
  | some number =>
    obtain ⟨owned, before, built, owns, same, placed, alike⟩ := restorable.live number current
    have finished := holds_reset current owns placed.whole
    exact ⟨finished.current, finished.length.trans (List.length_modify _ _ _)⟩

/-- The pool that is published is the one of the live instance's bridge. -/
theorem share (restorable : Restorable origin s) (unpublished : origin.pool = none) {number : Nat}
    (current : s.current = some number) {owned : Subsystems ω}
    (owns : subsystems? s number = some owned) (bridge : Locking.Bridge)
    (present : owned.lockBridge = some bridge) : s.pool.map (·.share) = bridge.share := by
  obtain ⟨parts, before, built, known, same, ⟨middle, bridged, made⟩, alike⟩ :=
    restorable.live number current
  obtain rfl : owned = parts := Option.some.inj (owns.symm.trans known)
  have empty : before.pool.map Locking.Published.share = none := by
    rw [same.pool_eq_none unpublished]
    rfl
  have shared := bridged.pool_share empty
  rw [present] at shared
  exact alike.share.trans ((congrArg (Option.map (·.share)) made.pool).trans shared)

theorem changeHandles (restorable : Restorable origin s) (number : Nat) (change : Nat → Nat) :
    Restorable origin (Factory.changeHandles number change s).2 :=
  restorable.of_same (.refl _) (funext fun other => subsystems?_changeHandles s number other change)
    rfl

/-- An instance that is built can be taken down again. -/
theorem construct [Memory ω] (alike : (slots s.toPlatform).Alike origin) (options : Options ω) :
    Restorable origin (Factory.construct options s).2 := by
  obtain ⟨built, placed, holds⟩ := holds_build options s ⟨rfl, rfl, rfl, rfl⟩
  have adopted : (Factory.construct options s).2 = adopt (build options s).1 (build options s).2 :=
    rfl
  rw [adopted]
  refine ⟨nofun, fun number live => ?_⟩
  obtain rfl : (build options s).2.instances.length = number := Option.some.inj live
  refine ⟨_, _, built, ?_, alike, placed, holds.held ▸ .refl _⟩
  rw [subsystems?_adopt, if_pos rfl]

theorem demand [Memory ω] (restorable : Restorable origin s) (options : StateM ω (Options ω)) :
    Restorable origin (Factory.demand (Process.onPlatform (Platform.consult options)) s).2 := by
  rw [demand_eq]
  cases current : s.current with
  | some number => exact restorable.changeHandles number _
  | none =>
    exact construct (s := (Process.onPlatform (Platform.consult options) s).2)
      (restorable.idle current) _

theorem passed (restorable : Restorable origin s) (unpublished : origin.pool = none)
    (passed : Passed s t) : Restorable origin t := by
  cases passed with
  | unmoved unmoved => exact restorable.reshelved unmoved.toReshelved
  | reset before early late =>
    exact ((restorable.reshelved early).reset unpublished).reshelved late

end Restorable

theorem serve_eq [Memory ω] (registry : Nat) (mode index : Int32) (file : Option Bytes)
    (line : Int32) (s : Process ω) :
    Step.run (.serve registry mode index file line) s =
      (match (s.registry registry).callback with
        | none => pure ()
        | some callback => Process.onPlatform (callback.call mode index file line)) s :=
  rfl

theorem restorable_step [Memory ω] {origin : Slots ω} (unpublished : origin.pool = none)
    {step : Step ω}
    (own : step.interferes = false) {s : Process ω} (restorable : Restorable origin s) :
    Restorable origin (step.run s).2 := by
  cases step with
  | demand options => exact restorable.demand options
  | reset => exact restorable.reset unpublished
  | cloneHandle number => exact restorable.changeHandles number _
  | dropHandle number => exact restorable.changeHandles number _
  | dispatch number request =>
    exact restorable.reshelved (passes_dispatch number request s).toReshelved
  | use operation => exact restorable.passed unpublished (operation.passed_run s)
  | serve registry mode index file line =>
    rw [serve_eq]
    cases (s.registry registry).callback with
    | none => exact restorable
    | some callback => exact restorable.onPlatform (Locking.alike_call callback mode index file line _).1
  | lockCount registry count =>
    exact restorable.onPlatform (.setLockCount (slots s.toPlatform) registry count)
  | outside act => exact restorable.onPlatform (.refl _)
  | loadTransport _ _ _ | unloadTransport | writeCallback _ _ => cases own

theorem restorable_after [Memory ω] {origin : Slots ω} (unpublished : origin.pool = none)
    {steps : List (Step ω)} (own : ∀ step ∈ steps, step.interferes = false) {s : Process ω}
    (restorable : Restorable origin s) : Restorable origin (after steps s) :=
  after_induction (Restorable origin)
    (fun step member _ holds => restorable_step unpublished (own step member) holds) restorable

end Factory

end CryptoProvider
