import CryptoProvider.Bytes

/-!
Byte strings cut into blocks. A string of whole blocks is a block and another such string, so what
holds of the empty string and of one block more holds of all of them.
-/

set_option autoImplicit false

namespace CryptoProvider.Bytes

variable {size : Nat} {bytes block rest : Bytes}

@[simp] theorem chunks_nil (size : Nat) : chunks size [] = [] := by
  simp [chunks]

@[simp] theorem chunks_zero (bytes : Bytes) : chunks 0 bytes = [] := by
  simp [chunks]

theorem chunks_of_pos (positive : 0 < size) (some : bytes ≠ []) :
    chunks size bytes = bytes.take size :: chunks size (bytes.drop size) := by
  rw [chunks, dif_neg (by simp [some, Nat.ne_of_gt positive])]

/-- The first chunk is a block that stands in front, or all that there is. -/
theorem chunks_cut {front : Bytes} (some : front ≠ []) (fits : front.length ≤ size)
    (cut : front.length = size ∨ rest = []) :
    chunks size (front ++ rest) = front :: chunks size rest := by
  have positive : 0 < size := Nat.lt_of_lt_of_le (List.length_pos_iff.mpr some) fits
  rw [chunks_of_pos positive (List.append_ne_nil_of_left_ne_nil some rest)]
  rcases cut with whole | none
  · subst whole
    rw [List.take_left, List.drop_left]
  · subst none
    rw [List.append_nil, List.take_of_length_le fits, List.drop_of_length_le fits]

theorem chunks_append (positive : 0 < size) (whole : block.length = size) (rest : Bytes) :
    chunks size (block ++ rest) = block :: chunks size rest :=
  chunks_cut (List.ne_nil_of_length_pos (whole ▸ positive)) (Nat.le_of_eq whole) (.inl whole)

theorem whole_append (whole : block.length = size) (others : rest.length % size = 0) :
    (block ++ rest).length % size = 0 := by
  rw [List.length_append, whole, Nat.add_mod_left, others]

/-- What holds of no bytes, and with one block more, holds of all strings of whole blocks. -/
@[elab_as_elim]
theorem block_induction {motive : (bytes : Bytes) → bytes.length % size = 0 → Prop}
    (nil : motive [] (Nat.zero_mod size))
    (block : ∀ block rest (whole : block.length = size) (others : rest.length % size = 0),
      motive rest others → motive (block ++ rest) (whole_append whole others))
    (bytes : Bytes) (whole : bytes.length % size = 0) : motive bytes whole := by
  by_cases none : bytes = []
  · subst none
    exact nil
  · have some : 0 < bytes.length := List.length_pos_iff.mpr none
    have longer : size ≤ bytes.length := Nat.le_of_dvd some (Nat.dvd_of_mod_eq_zero whole)
    have positive : 0 < size := by
      rcases Nat.eq_zero_or_pos size with zero | positive
      · rw [zero, Nat.mod_zero] at whole
        omega
      · exact positive
    have rest : (bytes.drop size).length % size = 0 := by
      rw [List.length_drop, ← Nat.mod_eq_sub_mod longer, whole]
    have step := block _ _ (List.length_take_of_le longer) rest (block_induction nil block _ rest)
    simpa only [List.take_append_drop] using step
termination_by bytes.length
decreasing_by
  rw [List.length_drop]
  omega

theorem chunks_whole_append {first : Bytes} (positive : 0 < size)
    (whole : first.length % size = 0) :
    chunks size (first ++ rest) = chunks size first ++ chunks size rest := by
  induction first, whole using block_induction with
  | nil => simp
  | block block others full _ ih =>
    rw [List.append_assoc, chunks_append positive full, chunks_append positive full, ih,
      List.cons_append]

theorem length_of_mem_chunks (positive : 0 < size) (bytes : Bytes)
    (whole : bytes.length % size = 0) : ∀ block ∈ chunks size bytes, block.length = size := by
  induction bytes, whole using block_induction with
  | nil => simp
  | block block rest full _ ih =>
    rw [chunks_append positive full]
    exact List.forall_mem_cons.mpr ⟨full, ih⟩

/-- All chunks are blocks but the last, which may be shorter. -/
theorem lengths_chunks (positive : 0 < size) (bytes : Bytes) :
    (∀ piece ∈ (chunks size bytes).dropLast, piece.length = size) ∧
      ∀ piece ∈ chunks size bytes, piece.length ≤ size := by
  by_cases short : bytes.length ≤ size
  · by_cases none : bytes = []
    · simp [none]
    · have one := chunks_cut none short (.inr rfl)
      rw [List.append_nil, chunks_nil] at one
      simpa [one] using short
  · have long : size < bytes.length := Nat.lt_of_not_le short
    have whole : (bytes.take size).length = size := List.length_take_of_le (Nat.le_of_lt long)
    have more : bytes.drop size ≠ [] := by
      rw [← List.length_pos_iff, List.length_drop]
      omega
    have ⟨blocks, pieces⟩ := lengths_chunks positive (bytes.drop size)
    have others : chunks size (bytes.drop size) ≠ [] := by simp [chunks_of_pos positive more]
    rw [chunks_of_pos positive (List.ne_nil_of_length_pos (by omega)),
      List.dropLast_cons_of_ne_nil others]
    exact ⟨List.forall_mem_cons.mpr ⟨whole, blocks⟩,
      List.forall_mem_cons.mpr ⟨Nat.le_of_eq whole, pieces⟩⟩
termination_by bytes.length
decreasing_by
  rw [List.length_drop]
  omega

theorem length_chunks (positive : 0 < size) (bytes : Bytes) (whole : bytes.length % size = 0) :
    (chunks size bytes).length = bytes.length / size := by
  induction bytes, whole using block_induction with
  | nil => simp
  | block block rest full _ ih =>
    rw [chunks_append positive full, List.length_cons, ih, List.length_append, full,
      Nat.add_div_left _ positive]

theorem length_flatten {pieces : List Bytes} (sizes : ∀ piece ∈ pieces, piece.length = size) :
    pieces.flatten.length = pieces.length * size := by
  induction pieces with
  | nil => simp
  | cons piece others ih =>
    have one := sizes piece List.mem_cons_self
    have rest := ih fun piece mine => sizes piece (List.mem_cons_of_mem _ mine)
    rw [List.flatten_cons, List.length_append, one, rest, List.length_cons, Nat.add_one_mul,
      Nat.add_comm]

section Blockwise

variable {forth back : Bytes → Bytes}

/-- What keeps the length of blocks keeps the length of strings of them. -/
theorem length_flatMap_chunks (positive : 0 < size)
    (keeps : ∀ block, block.length = size → (forth block).length = size) (bytes : Bytes)
    (whole : bytes.length % size = 0) :
    ((chunks size bytes).flatMap forth).length = bytes.length := by
  induction bytes, whole using block_induction with
  | nil => simp
  | block block rest full _ ih =>
    rw [chunks_append positive full, List.flatMap_cons, List.length_append, ih, keeps block full,
      List.length_append, full]

/-- What is undone on blocks is undone on strings of them. -/
theorem flatMap_chunks_inverse (positive : 0 < size)
    (keeps : ∀ block, block.length = size → (forth block).length = size)
    (undoes : ∀ block, block.length = size → back (forth block) = block) (bytes : Bytes)
    (whole : bytes.length % size = 0) :
    (chunks size ((chunks size bytes).flatMap forth)).flatMap back = bytes := by
  induction bytes, whole using block_induction with
  | nil => simp
  | block block rest full _ ih =>
    rw [chunks_append positive full, List.flatMap_cons, chunks_append positive (keeps block full),
      List.flatMap_cons, undoes block full, ih]

end Blockwise

end CryptoProvider.Bytes
