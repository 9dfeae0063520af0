import CryptoProvider.Platform.State

/-!
Triples over programs with a state: what holds before and what holds after, for every run. A
precondition may fix parts of the state by name, and the postcondition then speaks of them.
-/

set_option autoImplicit false

namespace CryptoProvider

theorem bind_apply {σ α β : Type} (program : StateM σ α) (rest : α → StateM σ β) (s : σ) :
    (program >>= rest) s = rest (program s).1 (program s).2 :=
  rfl

/-- From every state of `before`, a program ends with an answer and a state of `after`. -/
def Ensures {σ α : Type} (before : σ → Prop) (program : StateM σ α) (after : α → σ → Prop) : Prop :=
  ∀ s, before s → after (program s).1 (program s).2

namespace Ensures

variable {σ α β : Type} {before : σ → Prop}

theorem pure {after : α → σ → Prop} {value : α} (holds : ∀ s, before s → after value s) :
    Ensures before (Pure.pure value) after :=
  holds

theorem bind {program : StateM σ α} {rest : α → StateM σ β} {between : α → σ → Prop}
    {after : β → σ → Prop} (first : Ensures before program between)
    (next : ∀ value, Ensures (between value) (rest value) after) :
    Ensures before (program >>= rest) after :=
  fun s holds => next (program s).1 (program s).2 (first s holds)

theorem weaken {program : StateM σ α} {between after : α → σ → Prop}
    (ensured : Ensures before program between)
    (implies : ∀ value s, between value s → after value s) :
    Ensures before program after :=
  fun s holds => implies _ _ (ensured s holds)

theorem strengthen {other : σ → Prop} {program : StateM σ α} {after : α → σ → Prop}
    (ensured : Ensures other program after) (implies : ∀ s, before s → other s) :
    Ensures before program after :=
  fun s holds => ensured s (implies s holds)

theorem given {fact : Prop} {program : StateM σ α} {after : α → σ → Prop}
    (ensured : fact → Ensures before program after) :
    Ensures (fun s => fact ∧ before s) program after :=
  fun s holds => ensured holds.1 s holds.2

theorem exists_intro {ι : Type} {choice : ι → σ → Prop} {program : StateM σ α}
    {after : α → σ → Prop} (ensured : ∀ i, Ensures (choice i) program after) :
    Ensures (fun s => ∃ i, choice i s) program after :=
  fun s ⟨i, holds⟩ => ensured i s holds

-- A program that reads the state first is judged state by state.
theorem read {rest : σ → StateM σ β} {after : β → σ → Prop}
    (next : ∀ s, before s → Ensures (· = s) (rest s) after) :
    Ensures before (MonadState.get >>= rest) after :=
  fun s holds => next s holds s rfl

theorem step {s : σ} {program : StateM σ α} {rest : α → StateM σ β} {after : β → σ → Prop}
    (next : Ensures (· = (program s).2) (rest (program s).1) after) :
    Ensures (· = s) (program >>= rest) after := by
  rintro _ rfl
  exact next _ rfl

end Ensures

end CryptoProvider
