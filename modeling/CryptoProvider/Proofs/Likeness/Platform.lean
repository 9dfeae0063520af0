import CryptoProvider.Proofs.Ledger.Releases

/-!
Two platforms side by side. They are alike if the same was done on both, whatever the operator was
told meanwhile; every operation does the same on both and leaves them alike. So notices, and
whoever causes nothing but notices, have no influence on what happens later.
-/

set_option autoImplicit false

namespace CryptoProvider

open Ledger

/-- On states that are alike, a program gives the same answer, and it leaves them alike. -/
def Oblivious {σ α : Type} (alike : σ → σ → Prop) (program : StateM σ α) : Prop :=
  ∀ s t, alike s t → (program s).1 = (program t).1 ∧ alike (program s).2 (program t).2

namespace Oblivious

variable {σ α β : Type} {alike : σ → σ → Prop}

theorem pure (value : α) : Oblivious alike (Pure.pure value : StateM σ α) :=
  fun _ _ related => ⟨rfl, related⟩

theorem bind {program : StateM σ α} {rest : α → StateM σ β} (first : Oblivious alike program)
    (next : ∀ value, Oblivious alike (rest value)) : Oblivious alike (program >>= rest) := by
  intro s t related
  obtain ⟨same, after⟩ := first s t related
  have following := next (program s).1 (program s).2 (program t).2 after
  change (rest (program s).1 (program s).2).1 = (rest (program t).1 (program t).2).1 ∧
    alike (rest (program s).1 (program s).2).2 (rest (program t).1 (program t).2).2
  rw [← same]
  exact following

-- A program that reads the state first must read nothing in which states that are alike differ.
theorem read {rest : σ → StateM σ β} (same : ∀ s t, alike s t → rest s = rest t)
    (next : ∀ s, Oblivious alike (rest s)) : Oblivious alike (MonadState.get >>= rest) := by
  intro s t related
  have following := next t s t related
  change (rest s s).1 = (rest t t).1 ∧ alike (rest s s).2 (rest t t).2
  rw [same s t related]
  exact following

end Oblivious

variable {ω : Type}

/-- Two platforms on which the same was done: they differ at most in what the operator was told. -/
structure Platform.Alike (s t : Platform ω) : Prop where
  outside : s.outside = t.outside
  next : s.next = t.next
  slots : Ledger.slots s = Ledger.slots t
  acts : s.acts = t.acts

namespace Platform

namespace Alike

variable {s t : Platform ω}

theorem refl (s : Platform ω) : Alike s s :=
  ⟨rfl, rfl, rfl, rfl⟩

theorem symm (alike : Alike s t) : Alike t s :=
  ⟨alike.outside.symm, alike.next.symm, alike.slots.symm, alike.acts.symm⟩

theorem trans {r : Platform ω} (first : Alike r s) (second : Alike s t) : Alike r t :=
  ⟨first.outside.trans second.outside, first.next.trans second.next,
    first.slots.trans second.slots, first.acts.trans second.acts⟩

theorem transport (alike : Alike s t) : s.transport = t.transport :=
  congrArg Slots.transport alike.slots

theorem pool (alike : Alike s t) : s.pool = t.pool :=
  congrArg Slots.pool alike.slots

theorem registries (alike : Alike s t) : s.registries = t.registries :=
  congrArg Slots.registries alike.slots

theorem registry (alike : Alike s t) (number : Nat) : s.registry number = t.registry number :=
  registry_of_slots alike.slots number

theorem calls (alike : Alike s t) : s.calls = t.calls := by
  rw [calls_of_acts, calls_of_acts, alike.acts]

-- The same event happens on both.
theorem push (alike : Alike s t) (event : Event) :
    Alike { s with trace := event :: s.trace } { t with trace := event :: t.trace } where
  outside := alike.outside
  next := alike.next
  slots := alike.slots
  acts := by rw [Told.acts_push, Told.acts_push, alike.acts]

end Alike

theorem alike_note (notice : Notice) (s : Platform ω) : Alike s (note notice s).2 where
  outside := rfl
  next := rfl
  slots := rfl
  acts := ((Told.acts_push s (.notice notice)).trans (List.append_nil _)).symm

theorem oblivious_consult {α : Type} (answer : StateM ω α) : Oblivious Alike (consult answer) := by
  intro s t alike
  obtain ⟨outside, next, slots, acts⟩ := alike
  constructor
  · change (answer s.outside).1 = (answer t.outside).1
    rw [outside]
  · refine ⟨?_, next, slots, acts⟩
    change (answer s.outside).2 = (answer t.outside).2
    rw [outside]

theorem oblivious_record (reported : Bool) (call : Call) :
    Oblivious (Alike (ω := ω)) (record reported call) :=
  fun _ _ alike => ⟨rfl, alike.push (.call reported call)⟩

theorem oblivious_note (notice : Notice) : Oblivious (Alike (ω := ω)) (note notice) :=
  fun _ _ alike => ⟨rfl, alike.push (.notice notice)⟩

theorem oblivious_fresh : Oblivious (Alike (ω := ω)) fresh :=
  fun _ _ alike => ⟨alike.next, alike.outside, congrArg (· + 1) alike.next, alike.slots, alike.acts⟩

theorem oblivious_setTransport (loaded : Option (Transport.Loaded ω)) :
    Oblivious Alike (setTransport loaded) := by
  intro s t alike
  obtain ⟨outside, next, _, acts⟩ := alike.push (.change (.transport (loaded.map (·.module))))
  refine ⟨rfl, outside, next, ?_, acts⟩
  change Slots.mk loaded s.pool s.registries = Slots.mk loaded t.pool t.registries
  rw [alike.pool, alike.registries]

theorem oblivious_setPool (pool : Option Locking.Published) :
    Oblivious (Alike (ω := ω)) (setPool pool) := by
  intro s t alike
  obtain ⟨outside, next, _, acts⟩ := alike.push (.change (.pool (pool.map (·.number))))
  refine ⟨rfl, outside, next, ?_, acts⟩
  change Slots.mk s.transport pool s.registries = Slots.mk t.transport pool t.registries
  rw [alike.transport, alike.registries]

-- A change of the shared slots that is not an event, and the same on both.
theorem oblivious_modify {change : Platform ω → Platform ω}
    (outside : ∀ s, (change s).outside = s.outside) (next : ∀ s, (change s).next = s.next)
    (trace : ∀ s, (change s).trace = s.trace)
    (slots : ∀ s t, Ledger.slots s = Ledger.slots t →
      Ledger.slots (change s) = Ledger.slots (change t)) :
    Oblivious Alike (modify change : StateM (Platform ω) PUnit) := by
  intro s t alike
  have acts : ∀ s, (change s).acts = s.acts := fun s => by rw [acts, acts, events, events, trace]
  refine ⟨rfl, ?_, ?_, slots s t alike.slots, ?_⟩
  · exact (outside s).trans (alike.outside.trans (outside t).symm)
  · exact (next s).trans (alike.next.trans (next t).symm)
  · exact (acts s).trans (alike.acts.trans (acts t).symm)

theorem oblivious_writeCallback (number : Nat) (callback : Option Locking.Callback) :
    Oblivious (Alike (ω := ω)) (writeCallback number callback) :=
  oblivious_modify (fun _ => rfl) (fun _ => rfl) (fun _ => rfl) fun _ _ same =>
    congrArg (fun contents : Slots ω => contents.setCallback number callback) same

end Platform

end CryptoProvider
