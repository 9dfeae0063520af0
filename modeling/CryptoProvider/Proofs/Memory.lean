import CryptoProvider.Platform.Memory

/-!
What can be had of memory. The outside world decides, but only where a buffer of a size is possible
at all: it has at least one byte, and a multiple of the alignment between it and the largest object.
-/

set_option autoImplicit false

namespace CryptoProvider

/-- Memory that never runs short, where there is nothing to remember what was granted. -/
instance : Memory Unit where
  grants _ := return true

variable {ω : Type} [Memory ω] {size : Nat} {world : ω}

namespace Buffer

/-- Sizes that a buffer can have, whatever memory there is. -/
def Possible (size : Nat) : Prop :=
  0 < size ∧ size + (alignment - 1) ≤ Memory.largest

instance (size : Nat) : Decidable (Possible size) :=
  inferInstanceAs (Decidable (_ ∧ _))

theorem available_of_possible (possible : Possible size) :
    available (ω := ω) size = Memory.grants size := by
  unfold available Memory.request
  rw [if_neg (Nat.ne_of_gt possible.1), if_neg (Nat.not_lt.mpr possible.2)]

theorem available_of_impossible (impossible : ¬ Possible size) :
    available (ω := ω) size = return false := by
  unfold available Memory.request
  split
  · rfl
  case isFalse some =>
    exact if_pos (Nat.lt_of_not_le fun bounded => impossible ⟨Nat.pos_of_ne_zero some, bounded⟩)

theorem available_iff :
    (available size world).1 = true ↔ Possible size ∧ (Memory.grants size world).1 = true := by
  by_cases possible : Possible size
  · rw [available_of_possible possible, and_iff_right possible]
  · rw [available_of_impossible possible]
    exact iff_of_false Bool.false_ne_true fun both => possible both.1

end Buffer

end CryptoProvider
