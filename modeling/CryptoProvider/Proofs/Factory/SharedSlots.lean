import CryptoProvider.Proofs.Factory.Run

/-!
What the process shares follows the live instance: the transport slot, the published lock pool and
the callbacks in the registries, in every state of a run in which only the factory uses them.
-/

set_option autoImplicit false

namespace CryptoProvider.Factory

open Ledger

variable {ω : Type}

/-- A lock bridge belongs to the live instance, which has a number. -/
structure LiveBridge (s : Process ω) (number : Nat) (bridge : Locking.Bridge) : Prop where
  current : s.current = some number
  owned : (subsystems? s number).bind Subsystems.lockBridge = some bridge

/-- The shared slots hold what belongs to the live instance, and nothing else of the factory. -/
structure SlotsMatch (s : Process ω) : Prop where
  /-- A transport is loaded exactly when there is a live instance with hardware. -/
  transport : Transport.isLoaded s.toPlatform = true ↔
    ∃ number, s.current = some number ∧ (capabilities s number).hardware = true
  /-- A pool is published exactly when the live bridge serves a library that is not thread safe. -/
  pool : s.pool.isSome = true ↔
    ∃ number bridge, LiveBridge s number bridge ∧
      (s.registry bridge.registry).threadSafe = false
  share : ∀ published, s.pool = some published →
    ∃ number bridge, LiveBridge s number bridge ∧ bridge.share = some published.share
  /-- The bridge's callback stands in the registry of the live instance that installed it. -/
  callback : ∀ registry, (s.registry registry).callback = some .bridge ↔
    ∃ number bridge, LiveBridge s number bridge ∧ bridge.registry = registry ∧
      (capabilities s number).locking = .installedByUs

theorem liveBridge_iff {s : Process ω} {bridge : Locking.Bridge} :
    (live? s).bind Subsystems.lockBridge = some bridge ↔
      ∃ number, LiveBridge s number bridge := by
  constructor
  · intro owned
    cases current : s.current with
    | none =>
      rw [live?_of_none current] at owned
      cases owned
    | some number =>
      rw [live?_of_current current] at owned
      exact ⟨number, current, owned⟩
  · rintro ⟨number, current, owned⟩
    rw [live?_of_current current]
    exact owned

theorem LiveBridge.locking {s : Process ω} {number : Nat} {bridge : Locking.Bridge}
    (live : LiveBridge s number bridge) : (capabilities s number).locking = bridge.state := by
  obtain ⟨owned, found, same⟩ := Option.bind_eq_some_iff.mp live.owned
  rw [capabilities, found]
  simp [same]

theorem hardware_iff {s : Process ω} :
    ((live? s).bind Subsystems.hardware).isSome = true ↔
      ∃ number, s.current = some number ∧ (capabilities s number).hardware = true := by
  cases current : s.current with
  | none =>
    rw [live?_of_none current]
    simp
  | some number =>
    rw [live?_of_current current]
    have same : ((subsystems? s number).bind Subsystems.hardware).isSome =
        (capabilities s number).hardware := by
      unfold capabilities
      cases subsystems? s number <;> rfl
    rw [same]
    constructor
    · intro has
      exact ⟨number, rfl, has⟩
    · rintro ⟨_, ⟨⟩, has⟩
      exact has

/-- In every run of the factory alone, the shared slots match the live instance. -/
theorem slots_match [Memory ω] (outside : ω) (hosts : List Locking.Host) (steps : List (Step ω))
    (only : ∀ step ∈ steps, step.interferes = false) :
    SlotsMatch (after steps (Process.launch outside hosts)) := by
  have steady : Steady true [] (after steps (Process.launch outside hosts)) :=
    steady_after (fun _ => only) (steady_launch outside hosts)
  generalize after steps (Process.launch outside hosts) = s at steady
  have follows : Follows true (live? s) (slots s.toPlatform) := steady.follows
  have pool : s.pool.map Locking.Published.share =
    ((live? s).bind Subsystems.lockBridge).bind Locking.Bridge.share := follows.pool
  have share : ∀ published, s.pool = some published →
      ∃ number bridge, LiveBridge s number bridge ∧ bridge.share = some published.share := by
    intro published same
    rw [same] at pool
    obtain ⟨bridge, owned, shared⟩ := Option.bind_eq_some_iff.mp pool.symm
    obtain ⟨number, live⟩ := liveBridge_iff.mp owned
    exact ⟨number, bridge, live, shared⟩
  -- A bridge has a share exactly if its library is not thread safe, which no step changes.
  have locks : ∀ number bridge, LiveBridge s number bridge →
      bridge.share.isSome = !(s.registry bridge.registry).threadSafe :=
    fun number bridge live => follows.locks bridge (liveBridge_iff.mpr ⟨number, live⟩)
  refine ⟨?_, ⟨?_, ?_⟩, share, fun registry => ⟨?_, ?_⟩⟩
  · rw [← hardware_iff]
    exact iff_of_eq (congrArg (· = true) (follows.transport rfl))
  · intro published
    obtain ⟨published, same⟩ := Option.isSome_iff_exists.mp published
    obtain ⟨number, bridge, live, shared⟩ := share published same
    have needed := locks number bridge live
    rw [shared] at needed
    exact ⟨number, bridge, live, by simpa using needed.symm⟩
  · rintro ⟨number, bridge, live, serves⟩
    have shared := locks number bridge live
    rw [serves] at shared
    have owned := liveBridge_iff.mpr ⟨number, live⟩
    rw [owned] at pool
    change s.pool.map Locking.Published.share = bridge.share at pool
    rw [← pool, Option.isSome_map] at shared
    exact shared
  · intro installed
    obtain ⟨bridge, owned, same, state⟩ := (follows.callback rfl registry).mp installed
    obtain ⟨number, live⟩ := liveBridge_iff.mp owned
    exact ⟨number, bridge, live, same, live.locking.trans state⟩
  · rintro ⟨number, bridge, live, same, locking⟩
    exact (follows.callback rfl registry).mpr
      ⟨bridge, liveBridge_iff.mpr ⟨number, live⟩, same, live.locking.symm.trans locking⟩

theorem slots_match_willing :
    (∀ step ∈ [Willing.demand], step.interferes = false) ∧
      SlotsMatch (after [Willing.demand] (Process.launch () [Willing.host])) := by
  have only : ∀ step ∈ [Willing.demand], step.interferes = false := by
    intro step member
    rw [List.mem_singleton.mp member]
    rfl
  exact ⟨only, slots_match () [Willing.host] [Willing.demand] only⟩

end CryptoProvider.Factory
