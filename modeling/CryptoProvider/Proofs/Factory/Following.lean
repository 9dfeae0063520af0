import CryptoProvider.Proofs.Factory.Building

/-!
The shared slots follow the live instance. The pool that is published is its bridge's, whoever
else writes to the registries or loads transports; the transport and the callbacks are its own as
long as nobody else does.
-/

set_option autoImplicit false

namespace CryptoProvider

open Ledger

variable {ω : Type}

namespace Factory

/-- The shared slots are as the live instance, if there is one, left them; in full only if the
factory is alone in using the transport loader and in writing to the registries. -/
structure Follows (alone : Bool) (live : Option (Subsystems ω)) (contents : Slots ω) : Prop where
  pool : contents.pool.map Locking.Published.share =
    (live.bind Subsystems.lockBridge).bind Locking.Bridge.share
  locks : ∀ bridge, live.bind Subsystems.lockBridge = some bridge →
    bridge.share.isSome = !(contents.registry bridge.registry).threadSafe
  transport : alone = true →
    contents.transport.isSome = (live.bind Subsystems.hardware).isSome
  callback : alone = true → ∀ number, (contents.registry number).callback = some .bridge ↔
    ∃ bridge, live.bind Subsystems.lockBridge = some bridge ∧ bridge.registry = number ∧
      bridge.state = .installedByUs

theorem Follows.of_same {alone : Bool} {live : Option (Subsystems ω)} {contents after : Slots ω}
    (follows : Follows alone live contents)
    (pool : after.pool.map Locking.Published.share = contents.pool.map Locking.Published.share)
    (locks : ∀ number,
      (after.registry number).threadSafe = (contents.registry number).threadSafe)
    (transport : alone = true → after.transport = contents.transport)
    (callback : alone = true → ∀ number,
      (after.registry number).callback = (contents.registry number).callback) :
    Follows alone live after where
  pool := pool.trans follows.pool
  locks bridge same := by
    rw [locks]
    exact follows.locks bridge same
  transport only := by
    rw [transport only]
    exact follows.transport only
  callback only number := by
    rw [callback only]
    exact follows.callback only number

section

variable {before after : Slots ω} {bridge : Option Locking.Bridge}

theorem BridgeMade.pool_share (made : BridgeMade before bridge after)
    (empty : before.pool.map Locking.Published.share = none) :
    after.pool.map Locking.Published.share = bridge.bind Locking.Bridge.share := by
  cases bridge with
  | none =>
    obtain rfl := made
    exact empty
  | some bridge =>
    obtain ⟨registry, established⟩ := made
    cases established with
    | inert safe => exact empty
    | installed locks vacant published => rfl
    | deferring locks taken published => rfl

theorem BridgeMade.locks (made : BridgeMade before bridge after) (own : Locking.Bridge)
    (same : bridge = some own) :
    own.share.isSome = !(after.registry own.registry).threadSafe := by
  subst same
  obtain ⟨registry, established⟩ := made
  cases established with
  | inert safe => rw [safe]; rfl
  | installed locks vacant published =>
    rw [Slots.threadSafe_setCallback]
    exact (congrArg not locks).symm
  | deferring locks taken published => exact (congrArg not locks).symm

theorem BridgeMade.callback (made : BridgeMade before bridge after)
    (idle : ∀ number, (before.registry number).callback ≠ some .bridge) (number : Nat) :
    (after.registry number).callback = some .bridge ↔
      ∃ own, bridge = some own ∧ own.registry = number ∧ own.state = .installedByUs := by
  cases bridge with
  | none =>
    obtain rfl := made
    simpa using idle number
  | some bridge =>
    obtain ⟨registry, established⟩ := made
    cases established with
    | inert safe => exact iff_of_false (idle number) (by simp)
    | installed locks vacant published =>
      by_cases same : number = registry
      · subst same
        exact iff_of_true (Slots.callback_setCallback_self locks _) ⟨_, rfl, rfl, rfl⟩
      · rw [Slots.callback_setCallback_of_ne same]
        exact iff_of_false (idle number) (by simp [Ne.symm same])
    | deferring locks taken published => exact iff_of_false (idle number) (by simp)

end

variable {alone : Bool} {contents : Slots ω}

-- A new instance finds the slots as they are when there is none, and leaves them following it.
theorem Follows.built {owned : Subsystems ω} {after : Slots ω}
    (follows : Follows alone none contents) (built : Built contents owned after) :
    Follows alone (some owned) after := by
  obtain ⟨middle, transport, made, rfl, filled⟩ := built
  have idle : alone = true → ∀ number, (contents.registry number).callback ≠ some .bridge :=
    fun only number ours => by simpa using (follows.callback only number).mp ours
  refine ⟨made.pool_share follows.pool, made.locks, fun only => ?_,
    fun only => made.callback (idle only)⟩
  change transport.isSome = owned.hardware.isSome
  rw [filled, follows.transport only]
  exact Bool.or_false _

def Subsystems.dismantle (owned : Subsystems ω) (contents : Slots ω) : Slots ω :=
  let unloaded := if owned.hardware.isSome then { contents with transport := none } else contents
  match owned.lockBridge with
  | some bridge => bridge.dismantle unloaded
  | none => unloaded

-- A bridge that follows its pool owns what is in the pool slot.
theorem ownsSlot_of_share {bridge : Locking.Bridge}
    (pool : contents.pool.map Locking.Published.share = bridge.share) :
    bridge.ownsSlot contents = bridge.share.isSome := by
  rw [Locking.Bridge.ownsSlot, ← pool]
  cases contents.pool with
  | none => rfl
  | some published => simp [Locking.Published.share]

section

variable {bridge : Locking.Bridge} (pool : contents.pool.map Locking.Published.share = bridge.share)
include pool

theorem pool_dismantle : (bridge.dismantle contents).pool = none := by
  unfold Locking.Bridge.dismantle
  rw [ownsSlot_of_share pool]
  cases share : bridge.share with
  | some share => rfl
  | none =>
    rw [share] at pool
    change (bridge.withdrawCallback contents).pool = none
    unfold Locking.Bridge.withdrawCallback
    split <;> exact Option.map_eq_none_iff.mp pool

theorem callback_dismantle (shares : bridge.share = none ↔ bridge.state = .notInstalled)
    {number : Nat} (ours : (contents.registry number).callback = some .bridge →
      bridge.registry = number ∧ bridge.state = .installedByUs) :
    ((bridge.dismantle contents).registry number).callback ≠ some .bridge := by
  intro left
  -- If the callback were left, it would have been taken out: it is the bridge's own, and so is the
  -- pool.
  have kept : ((bridge.withdrawCallback contents).registry number).callback = some .bridge := by
    unfold Locking.Bridge.dismantle at left
    split at left <;> exact left
  unfold Locking.Bridge.withdrawCallback at kept
  split at kept
  case isTrue removed =>
    by_cases same : number = bridge.registry
    · rw [same, Slots.callback_setCallback_none] at kept
      cases kept
    · rw [Slots.callback_setCallback_of_ne same] at kept
      exact same (ours kept).1.symm
  case isFalse foreign =>
    obtain ⟨rfl, state⟩ := ours kept
    refine foreign ⟨state, kept, ?_⟩
    rw [ownsSlot_of_share pool, Option.isSome_iff_ne_none]
    intro none
    rw [shares.mp none] at state
    cases state

end

theorem transport_dismantle (bridge : Locking.Bridge) :
    (bridge.dismantle contents).transport = contents.transport := by
  unfold Locking.Bridge.dismantle Locking.Bridge.withdrawCallback
  split <;> split <;> rfl

theorem dismantle_transport {owned : Subsystems ω} (present : owned.hardware.isSome = true) :
    (owned.dismantle contents).transport = none := by
  unfold Subsystems.dismantle
  rw [if_pos present]
  cases owned.lockBridge with
  | none => rfl
  | some bridge => exact transport_dismantle bridge

theorem dismantle_callback {owned : Subsystems ω} (whole : owned.Whole)
    (follows : Follows alone (some owned) contents) {bridge : Locking.Bridge}
    (present : owned.lockBridge = some bridge) (state : bridge.state = .installedByUs) :
    ((owned.dismantle contents).registry bridge.registry).callback ≠ some .bridge := by
  have pool : contents.pool.map Locking.Published.share = bridge.share := by
    simpa [present] using follows.pool
  unfold Subsystems.dismantle
  rw [present]
  refine callback_dismantle ?_ (whole.bridge bridge present) fun _ => ⟨rfl, state⟩
  split <;> exact pool

-- Taking an instance down leaves the slots as they are when there is none.
theorem Follows.dismantled {owned : Subsystems ω} (whole : owned.Whole)
    (follows : Follows alone (some owned) contents) :
    Follows alone none (owned.dismantle contents) := by
  obtain ⟨pool, locks, transport, callback⟩ := follows
  -- Unloading touches neither the pool nor the registries, so the bridge still finds what it left.
  have unloaded : ∃ unloaded : Slots ω,
      unloaded = (if owned.hardware.isSome then { contents with transport := none } else contents) ∧
      unloaded.pool = contents.pool ∧ unloaded.registry = contents.registry ∧
      (alone = true → unloaded.transport = none) := by
    refine ⟨_, rfl, ?_⟩
    split
    case isTrue loaded => exact ⟨rfl, rfl, fun _ => rfl⟩
    case isFalse bare =>
      refine ⟨rfl, rfl, fun only => Option.not_isSome_iff_eq_none.mp fun loaded => bare ?_⟩
      rw [transport only] at loaded
      exact loaded
  obtain ⟨unloaded, same, samePool, sameRegistry, empty⟩ := unloaded
  rw [← samePool] at pool
  rw [← sameRegistry] at callback
  unfold Subsystems.dismantle
  rw [← same]
  dsimp only
  cases bridged : owned.lockBridge with
  | none =>
    refine ⟨?_, by simp, fun only => ?_, fun only number => ?_⟩
    · simpa [bridged] using pool
    · rw [empty only]
      rfl
    · simpa [bridged] using callback only number
  | some bridge =>
    have shared : unloaded.pool.map Locking.Published.share = bridge.share := by
      simpa [bridged] using pool
    refine ⟨?_, by simp, fun only => ?_, fun only number => ?_⟩
    · rw [pool_dismantle shared]
      rfl
    · rw [transport_dismantle, empty only]
      rfl
    · refine iff_of_false (callback_dismantle shared (whole.bridge bridge bridged) ?_) (by simp)
      intro ours
      simpa [bridged] using (callback only number).mp ours

end Factory

end CryptoProvider
