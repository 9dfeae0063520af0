import CryptoProvider.Proofs.Triple

/-!
Histories: runs in which every operation finds a state as it has to be, and things that were made one
after another, each in its place.
-/

set_option autoImplicit false

namespace CryptoProvider

section

variable {σ α : Type} {step : σ → α → σ} {holds : σ → α → Prop} {s : σ}

/-- Every operation of a run finds a state of which it holds. -/
def Throughout (step : σ → α → σ) (holds : σ → α → Prop) : σ → List α → Prop
  | _, [] => True
  | s, operation :: rest => holds s operation ∧ Throughout step holds (step s operation) rest

theorem throughout_append (first second : List α) :
    Throughout step holds s (first ++ second) ↔
      Throughout step holds s first ∧ Throughout step holds (first.foldl step s) second := by
  induction first generalizing s with
  | nil => simp [Throughout]
  | cons operation rest ih => simp [Throughout, ih, and_assoc]

theorem throughout_snoc (operations : List α) (last : α) :
    Throughout step holds s (operations ++ [last]) ↔
      Throughout step holds s operations ∧ holds (operations.foldl step s) last := by
  simp [throughout_append, Throughout]

end

/-! A list that keeps the place of each thing, with none where one is gone. -/

namespace Places

variable {α : Type} {places : List (Option α)} {place other : Nat}

theorem lt_of_held {held : α} (found : places[place]?.join = some held) :
    place < places.length :=
  (List.getElem?_eq_some_iff.mp (Option.join_eq_some_iff.mp found)).1

theorem held_set (occupied : place < places.length) (rest : Option α) :
    (places.set place rest)[other]?.join = if other = place then rest else places[other]?.join := by
  rw [List.getElem?_set]
  by_cases same : other = place
  · simp [same, occupied]
  · simp [same, Ne.symm same]

theorem held_append (new : Option α) :
    (places ++ [new])[other]?.join = if other = places.length then new else places[other]?.join := by
  rcases Nat.lt_trichotomy other places.length with early | same | late
  · simp [List.getElem?_append_left early, Nat.ne_of_lt early]
  · simp [same]
  · have beyond : places[other]? = none := List.getElem?_eq_none (Nat.le_of_lt late)
    have still : (places ++ [new])[other]? = none := List.getElem?_eq_none (by simp; omega)
    simp [beyond, still, Nat.ne_of_gt late]

end Places

end CryptoProvider
