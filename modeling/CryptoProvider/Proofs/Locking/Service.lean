import CryptoProvider.Proofs.Renaming.Platform

/-!
Lock requests. A library that calls the callback in its slot changes at most which locks of the
published pool are taken; so what the shared slots hold is the same for all that a bridge looks at.
-/

set_option autoImplicit false

namespace CryptoProvider

open Ledger

variable {ω : Type}

namespace Ledger.Slots

/-- The same, but for the locks taken and the number of locks asked for. -/
structure Alike (contents other : Slots ω) : Prop where
  transport : contents.transport = other.transport
  share : contents.pool.map (·.share) = other.pool.map (·.share)
  bindings : contents.registries.map (·.binding) = other.registries.map (·.binding)

namespace Alike

variable {contents other third : Slots ω}

theorem refl (contents : Slots ω) : contents.Alike contents :=
  ⟨rfl, rfl, rfl⟩

theorem symm (alike : contents.Alike other) : other.Alike contents :=
  ⟨alike.transport.symm, alike.share.symm, alike.bindings.symm⟩

theorem trans (first : contents.Alike other) (second : other.Alike third) :
    contents.Alike third :=
  ⟨first.transport.trans second.transport, first.share.trans second.share,
    first.bindings.trans second.bindings⟩

theorem callback (alike : contents.Alike other) (number : Nat) :
    (contents.registry number).callback = (other.registry number).callback := by
  have callback := congrArg Locking.Registry.callback (Locking.binding_getD alike.bindings number)
  exact callback

theorem threadSafe (alike : contents.Alike other) (number : Nat) :
    (contents.registry number).threadSafe = (other.registry number).threadSafe := by
  have safe := congrArg Locking.Registry.threadSafe (Locking.binding_getD alike.bindings number)
  exact safe

theorem pool_eq_none (alike : contents.Alike other) (empty : other.pool = none) :
    contents.pool = none := by
  have share := alike.share
  rw [empty] at share
  exact Option.map_eq_none_iff.mp share

theorem setPool (alike : contents.Alike other) (pool : Option Locking.Published) :
    Alike { contents with pool } { other with pool } :=
  ⟨alike.transport, rfl, alike.bindings⟩

theorem setCallback (alike : contents.Alike other) (number : Nat)
    (callback : Option Locking.Callback) :
    (contents.setCallback number callback).Alike (other.setCallback number callback) := by
  refine ⟨alike.transport, alike.share, ?_⟩
  unfold Slots.setCallback
  rw [Locking.bindings_modify, Locking.bindings_modify, alike.bindings]

theorem ownsSlot (alike : contents.Alike other) (bridge : Locking.Bridge) :
    bridge.ownsSlot contents = bridge.ownsSlot other := by
  have share := alike.share
  unfold Locking.Bridge.ownsSlot
  cases bridge.share with
  | none => rfl
  | some own =>
    cases first : contents.pool <;> cases second : other.pool <;>
      simp_all [Locking.Published.share]

theorem dismantle (alike : contents.Alike other) (bridge : Locking.Bridge) :
    (bridge.dismantle contents).Alike (bridge.dismantle other) := by
  have owns : bridge.ownsCallback contents ↔ bridge.ownsCallback other := by
    unfold Locking.Bridge.ownsCallback
    rw [alike.callback, alike.ownsSlot]
  have withdrawn : (bridge.withdrawCallback contents).Alike (bridge.withdrawCallback other) := by
    unfold Locking.Bridge.withdrawCallback
    simp only [owns]
    split
    · exact alike.setCallback _ _
    · exact alike
  unfold Locking.Bridge.dismantle
  rw [alike.ownsSlot]
  split
  · exact withdrawn.setPool none
  · exact withdrawn

theorem setLockCount (contents : Slots ω) (number : Nat) (count : Int) :
    (contents.setLockCount number count).Alike contents := by
  refine ⟨rfl, rfl, ?_⟩
  apply List.ext_getElem?
  intro place
  simp only [Slots.setLockCount, List.getElem?_map, List.getElem?_modify]
  cases contents.registries[place]? with
  | none => rfl
  | some registry => by_cases here : number = place <;> simp [here, Locking.Registry.binding]

end Alike

end Ledger.Slots

namespace Locking

/-- A callback changes at most which locks of the pool are taken. -/
theorem alike_serve (mode index : Int32) (file : Option Bytes) (line : Int32) (s : Platform ω) :
    Ensures (· = s) (serve mode index file line) fun _ t =>
      (slots t).Alike (slots s) ∧ t.next = s.next := by
  refine Ensures.read ?_
  rintro s rfl
  have noted {notice : Notice} {t : Platform ω} (alike : (slots t).Alike (slots s))
      (next : t.next = s.next) :
      Ensures (· = t) (Platform.note notice) fun _ t =>
        (slots t).Alike (slots s) ∧ t.next = s.next := by
    rintro _ rfl
    exact ⟨alike, next⟩
  cases published? : s.pool with
  | none => exact noted (.refl _) rfl
  | some published =>
    dsimp only
    cases applied : published.pool.apply mode index with
    | mk outcome pool =>
      have size : pool.size = published.pool.size := by
        rw [← Pool.size_apply published.pool mode index, applied]
      have alike : (slots { s with pool := some { published with pool } }).Alike (slots s) := by
        refine ⟨rfl, ?_, rfl⟩
        change some _ = s.pool.map _
        rw [published?]
        simp [Published.share, size]
      refine Ensures.step ?_
      cases outcome with
      | outOfRange | notHeld => exact noted alike rfl
      | taken | released | waiting =>
        rintro _ rfl
        exact ⟨alike, rfl⟩

theorem alike_call (callback : Callback) (mode index : Int32) (file : Option Bytes)
    (line : Int32) (s : Platform ω) :
    (slots (callback.call mode index file line s).2).Alike (slots s) ∧
      (callback.call mode index file line s).2.next = s.next := by
  cases callback with
  | bridge => exact alike_serve mode index file line s s rfl
  | foreign owner => exact ⟨.refl _, rfl⟩

end Locking

end CryptoProvider
