import CryptoProvider.Cipher.Aes
import CryptoProvider.Proofs.Bytes.Chunks
import CryptoProvider.Proofs.Bytes.Numbers

/-!
AES decrypts what it encrypts. Each step of a round is undone by its inverse: the substitution byte
by byte, the rows as a permutation of places, the columns because doubling is linear. The rounds are
then undone from the last to the first.
-/

set_option autoImplicit false

namespace CryptoProvider.Cipher

open Bytes

namespace Aes

/-! The substitution. -/

-- A table undoes another if its entries, read in the order of the other, are all the bytes in turn.
theorem getD_getD {forth back : Array UInt8}
    (undoes : (forth.toList.map fun byte => back.getD byte.toNat 0) =
      (List.range 256).map UInt8.ofNat) (byte : UInt8) :
    back.getD (forth.getD byte.toNat 0).toNat 0 = byte := by
  have small : byte.toNat < 256 := byte.toNat_lt
  have size := congrArg List.length undoes
  have same := congrArg (·[byte.toNat]?) undoes
  simp only [List.length_map, List.length_range, Array.length_toList] at size
  have within : byte.toNat < forth.size := by rw [size]; exact small
  simpa [Array.getD_eq_getD_getElem?, within, small] using same

theorem inverseSubstitution_substitution :
    (substitution.toList.map fun byte => inverseSubstitution.getD byte.toNat 0) =
      (List.range 256).map UInt8.ofNat := by
  decide +kernel

theorem inverseSubstitute_substitute (block : Bytes) :
    inverseSubstitute (substitute block) = block := by
  simp only [inverseSubstitute, substitute, List.map_map, Function.comp_def,
    getD_getD inverseSubstitution_substitution, List.map_id']

@[simp] theorem length_substitute (block : Bytes) : (substitute block).length = block.length :=
  List.length_map _

@[simp] theorem length_inverseSubstitute (block : Bytes) :
    (inverseSubstitute block).length = block.length :=
  List.length_map _

/-! The rows. -/

@[simp] theorem length_select (places : List Nat) (block : Bytes) :
    (select places block).length = places.length :=
  List.length_map _

theorem select_select {outer inner : List Nat} (within : ∀ place ∈ outer, place < inner.length)
    (block : Bytes) :
    select outer (select inner block) = select (outer.map (inner.getD · 0)) block := by
  simp only [select, List.map_map]
  apply List.map_congr_left
  intro place mine
  have bound := within place mine
  simp [Array.getD, bound]

theorem select_range (block : Bytes) : select (List.range block.length) block = block := by
  apply List.ext_getElem
  · simp
  · intro place first second
    simp [select, second]

theorem inverseShiftRows_shiftRows {block : Bytes} (whole : block.length = 16) :
    inverseShiftRows (shiftRows block) = block := by
  have all := select_range block
  rw [whole] at all
  rw [inverseShiftRows, shiftRows, select_select (by decide)]
  exact all

/-! The columns. -/

theorem and_xor (a b mask : UInt8) : (a ^^^ b) &&& mask = (a &&& mask) ^^^ (b &&& mask) := by
  apply UInt8.toBitVec_inj.mp
  apply BitVec.eq_of_getLsbD_eq
  intro place _
  simp [Bool.and_xor_distrib_right]

theorem top_bit (byte : UInt8) : byte &&& 0x80 = 0 ∨ byte &&& 0x80 = 0x80 := by
  have all : ∀ byte : Fin 256,
      UInt8.ofNat byte.val &&& 0x80 = 0 ∨ UInt8.ofNat byte.val &&& 0x80 = 0x80 := by
    decide +kernel
  simpa only [UInt8.ofNat_toNat] using all ⟨byte.toNat, byte.toNat_lt⟩

-- What is mixed into both sides is gone.
theorem xor_both (a b mask : UInt8) : a ^^^ mask ^^^ (b ^^^ mask) = a ^^^ b := by
  calc a ^^^ mask ^^^ (b ^^^ mask) = a ^^^ b ^^^ (mask ^^^ mask) := by ac_rfl
    _ = a ^^^ b := by rw [UInt8.xor_self, UInt8.xor_zero]

theorem double_xor (a b : UInt8) : double (a ^^^ b) = double a ^^^ double b := by
  have apart : (0x80 : UInt8) ≠ 0 := by decide
  simp only [double, and_xor, UInt8.shiftLeft_xor]
  rcases top_bit a with low | high <;> rcases top_bit b with low' | high'
  · simp [low, low']
  · simp [low, high', UInt8.xor_assoc]
  · simp only [high, low', UInt8.xor_zero, apart, if_true, if_false]
    ac_rfl
  · simp only [high, high', UInt8.xor_self, apart, if_true, if_false]
    exact (xor_both _ _ _).symm

section Columns

variable {left right : Bytes}

@[simp] theorem length_mixColumn (column : Bytes) : (mixColumn column).length = column.length := by
  unfold mixColumn
  split <;> rfl

@[simp] theorem length_inverseMixColumn (column : Bytes) :
    (inverseMixColumn column).length = column.length := by
  unfold inverseMixColumn
  split <;> simp

theorem mixColumn_xor (four : left.length = 4) (four' : right.length = 4) :
    mixColumn (Bytes.xor left right) = Bytes.xor (mixColumn left) (mixColumn right) := by
  match left, four, right, four' with
  | [a, b, c, d], _, [a', b', c', d'], _ =>
    simp only [mixColumn, Bytes.xor, List.zipWith_cons_cons, List.zipWith_nil_left, double_xor,
      List.cons.injEq, and_true]
    exact ⟨by ac_rfl, by ac_rfl, by ac_rfl, by ac_rfl⟩

theorem inverseMixColumn_xor (four : left.length = 4) (four' : right.length = 4) :
    inverseMixColumn (Bytes.xor left right) =
      Bytes.xor (inverseMixColumn left) (inverseMixColumn right) := by
  match left, four, right, four' with
  | [a, b, c, d], _, [a', b', c', d'], _ =>
    simp only [inverseMixColumn]
    rw [← mixColumn_xor rfl rfl]
    simp only [Bytes.xor, List.zipWith_cons_cons, List.zipWith_nil_left, double_xor]
    congr 1
    simp only [List.cons.injEq, and_true]
    exact ⟨by ac_rfl, by ac_rfl, by ac_rfl, by ac_rfl⟩

-- A column of one byte among zeros.
def single (place : Nat) (byte : UInt8) : Bytes :=
  (List.replicate 4 0).set place byte

@[simp] theorem length_single (place : Nat) (byte : UInt8) : (single place byte).length = 4 := by
  simp [single]

theorem xor_left_comm (a b c : UInt8) : a ^^^ (b ^^^ c) = b ^^^ (a ^^^ c) := by
  ac_rfl

theorem xor_xor_self (a b : UInt8) : a ^^^ (a ^^^ b) = b := by
  rw [← UInt8.xor_assoc, UInt8.xor_self, UInt8.zero_xor]

theorem double_zero : double 0 = 0 := by
  decide

theorem inverseMixColumn_mixColumn_single {place : Nat} (within : place < 4) (byte : UInt8) :
    inverseMixColumn (mixColumn (single place byte)) = single place byte := by
  match place, within with
  | 0, _ | 1, _ | 2, _ | 3, _ =>
    simp only [single, List.replicate, List.set, mixColumn, inverseMixColumn, double_xor,
      double_zero, UInt8.xor_self, UInt8.xor_zero, UInt8.zero_xor, UInt8.xor_assoc, UInt8.xor_comm,
      xor_left_comm, xor_xor_self]

/-- Both steps respect the mixing of columns, so it is enough that one undoes the other on columns
of a single byte. -/
theorem inverseMixColumn_mixColumn {column : Bytes} (four : column.length = 4) :
    inverseMixColumn (mixColumn column) = column := by
  match column, four with
  | [a, b, c, d], _ =>
    have apart : [a, b, c, d] = Bytes.xor (single 0 a)
        (Bytes.xor (single 1 b) (Bytes.xor (single 2 c) (single 3 d))) := by
      simp [single, Bytes.xor]
    rw [apart]
    simp [mixColumn_xor, inverseMixColumn_xor, inverseMixColumn_mixColumn_single]

end Columns

theorem length_mixColumns {block : Bytes} (whole : block.length % 4 = 0) :
    (mixColumns block).length = block.length :=
  length_flatMap_chunks (by decide) (fun column four => by rw [length_mixColumn, four]) block whole

theorem length_inverseMixColumns {block : Bytes} (whole : block.length % 4 = 0) :
    (inverseMixColumns block).length = block.length :=
  length_flatMap_chunks (by decide) (fun column four => by rw [length_inverseMixColumn, four])
    block whole

theorem inverseMixColumns_mixColumns {block : Bytes} (whole : block.length % 4 = 0) :
    inverseMixColumns (mixColumns block) = block :=
  flatMap_chunks_inverse (by decide) (fun column four => by rw [length_mixColumn, four])
    (fun _ => inverseMixColumn_mixColumn) block whole

/-! The rounds. -/

@[simp] theorem length_shiftRows (block : Bytes) : (shiftRows block).length = 16 :=
  length_select _ block

@[simp] theorem length_inverseShiftRows (block : Bytes) : (inverseShiftRows block).length = 16 :=
  length_select _ block

theorem unscramble {block : Bytes} (whole : block.length = 16) :
    inverseSubstitute (inverseShiftRows (shiftRows (substitute block))) = block := by
  rw [inverseShiftRows_shiftRows (by rw [length_substitute, whole]), inverseSubstitute_substitute]

theorem length_mixed (block : Bytes) : (mixColumns (shiftRows (substitute block))).length = 16 := by
  rw [length_mixColumns (by rw [length_shiftRows]), length_shiftRows]

theorem length_unshifted (block : Bytes) :
    (inverseSubstitute (inverseShiftRows block)).length = 16 := by
  rw [length_inverseSubstitute, length_inverseShiftRows]

theorem length_rounds (keys : List Bytes) (sizes : ∀ key ∈ keys, key.length = 16)
    (block : Bytes) (whole : block.length = 16) : (rounds keys block).length = 16 := by
  induction keys, block using rounds.induct with
  | case1 block => exact whole
  | case2 last block =>
    exact length_xor_of_eq (length_shiftRows _) (sizes last List.mem_cons_self)
  | case3 key rest block more ih =>
    obtain ⟨size, sizes⟩ := List.forall_mem_cons.mp sizes
    rw [rounds]
    · exact ih sizes (length_xor_of_eq (length_mixed block) size)
    · exact more

theorem length_inverseRounds (keys : List Bytes) (sizes : ∀ key ∈ keys, key.length = 16)
    (block : Bytes) (whole : block.length = 16) : (inverseRounds keys block).length = 16 := by
  induction keys, block using inverseRounds.induct with
  | case1 block => exact whole
  | case2 first block =>
    exact length_xor_of_eq (length_unshifted block) (sizes first List.mem_cons_self)
  | case3 key rest block more ih =>
    obtain ⟨size, sizes⟩ := List.forall_mem_cons.mp sizes
    have keyed := length_xor_of_eq (length_unshifted block) size
    rw [inverseRounds]
    · exact ih sizes (by rw [length_inverseMixColumns (by rw [keyed]), keyed])
    · exact more

-- The key added first is taken away last.
theorem inverseRounds_concat {keys : List Bytes} (some : keys ≠ []) (key block : Bytes) :
    inverseRounds (keys ++ [key]) block =
      Bytes.xor (inverseSubstitute (inverseShiftRows
        (inverseMixColumns (inverseRounds keys block)))) key := by
  induction keys, block using inverseRounds.induct with
  | case1 block => contradiction
  | case2 first block => rfl
  | case3 other rest block more ih =>
    have nonempty : rest ≠ [] := fun none => more none
    rw [List.cons_append, inverseRounds, ih nonempty, inverseRounds]
    · exact more
    · intro none
      simp at none

theorem decrypt_cons {keys : List Bytes} (two : 2 ≤ keys.length) (first text : Bytes) :
    decrypt (first :: keys) text =
      Bytes.xor (inverseSubstitute (inverseShiftRows
        (inverseMixColumns (decrypt keys text)))) first := by
  cases order : keys.reverse with
  | nil => simp_all
  | cons last others =>
    have length := congrArg List.length order
    rw [List.length_reverse, List.length_cons] at length
    have some : others ≠ [] := List.ne_nil_of_length_pos (by omega)
    simp only [decrypt, List.reverse_cons, order, List.cons_append]
    exact inverseRounds_concat some first _

/-- What the rounds made of a block is taken back to the block with the first key added. The last
round is the first to be undone, so each round more in front is undone after all the others. -/
theorem decrypt_rounds (first : Bytes) (keys : List Bytes)
    (sizes : ∀ key ∈ keys, key.length = 16) (some : keys ≠ []) (block : Bytes)
    (whole : block.length = 16) :
    decrypt (first :: keys) (rounds keys block) = Bytes.xor block first := by
  induction keys, block using rounds.induct generalizing first with
  | case1 block => contradiction
  | case2 last block =>
    have covers : (shiftRows (substitute block)).length ≤ last.length := by
      rw [length_shiftRows, sizes last List.mem_cons_self]
    change Bytes.xor (inverseSubstitute (inverseShiftRows (Bytes.xor (Bytes.xor _ _) _))) _ = _
    rw [xor_cancel covers, unscramble whole]
  | case3 key rest block more ih =>
    obtain ⟨size, sizes⟩ := List.forall_mem_cons.mp sizes
    have nonempty : rest ≠ [] := fun none => more none
    have two : 2 ≤ (key :: rest).length := by
      have one := List.length_pos_iff.mpr nonempty
      rw [List.length_cons]
      omega
    have mixed := length_mixed block
    have later := ih key sizes nonempty (length_xor_of_eq mixed size)
    rw [rounds, decrypt_cons two, later, xor_cancel (by rw [mixed, size]),
      inverseMixColumns_mixColumns (by simp), unscramble whole]
    exact more

theorem length_encrypt (keys : List Bytes) (sizes : ∀ key ∈ keys, key.length = 16)
    (block : Bytes) (whole : block.length = 16) : (encrypt keys block).length = 16 := by
  cases keys with
  | nil => exact whole
  | cons first rest =>
    obtain ⟨size, sizes⟩ := List.forall_mem_cons.mp sizes
    exact length_rounds rest sizes _ (length_xor_of_eq whole size)

theorem length_decrypt (keys : List Bytes) (sizes : ∀ key ∈ keys, key.length = 16)
    (block : Bytes) (whole : block.length = 16) : (decrypt keys block).length = 16 := by
  have backwards : ∀ key ∈ keys.reverse, key.length = 16 := by simpa using sizes
  cases order : keys.reverse with
  | nil => simpa only [decrypt, order] using whole
  | cons last rest =>
    rw [order] at backwards
    obtain ⟨size, sizes⟩ := List.forall_mem_cons.mp backwards
    simpa only [decrypt, order] using
      length_inverseRounds rest sizes _ (length_xor_of_eq whole size)

theorem decrypt_encrypt (keys : List Bytes) (sizes : ∀ key ∈ keys, key.length = 16)
    (block : Bytes) (whole : block.length = 16) : decrypt keys (encrypt keys block) = block := by
  cases keys with
  | nil => rfl
  | cons first rest =>
    obtain ⟨size, sizes⟩ := List.forall_mem_cons.mp sizes
    have covers : block.length ≤ first.length := by rw [whole, size]
    by_cases none : rest = []
    · subst none
      exact xor_cancel covers
    · rw [encrypt, decrypt_rounds first rest sizes none _ (length_xor_of_eq whole size),
        xor_cancel covers]

/-! The key schedule. -/

theorem length_nextKeyWord {previous : Bytes} (four : previous.length = 4) (words index : Nat)
    (constant : UInt8) : (nextKeyWord words index constant previous).length = 4 := by
  unfold nextKeyWord
  split
  · simp [four]
  · split
    · rw [length_substitute, four]
    · exact four

theorem expand_words {words : Nat} (positive : 0 < words) (count : Nat) (constant : UInt8)
    (key : Array Bytes) (enough : words ≤ key.size) (four : ∀ word ∈ key, word.length = 4) :
    (expand words count constant key).size = key.size + count ∧
      ∀ word ∈ expand words count constant key, word.length = 4 := by
  induction count generalizing constant key with
  | zero => exact ⟨rfl, four⟩
  | succ count ih =>
    have read (index : Nat) (within : index < key.size) : (key.getD index []).length = 4 := by
      simp [Array.getD, within, four]
    have next : ∀ word ∈ key.push (Bytes.xor (key.getD (key.size - words) [])
        (nextKeyWord words key.size constant (key.getD (key.size - 1) []))), word.length = 4 := by
      intro word mine
      rcases Array.mem_push.mp mine with old | new
      · exact four word old
      · rw [new]
        exact length_xor_of_eq (read _ (by omega)) (length_nextKeyWord (read _ (by omega)) ..)
    have later := ih (if key.size % words = 0 then double constant else constant) _
      (by rw [Array.size_push]; omega) next
    rw [Array.size_push] at later
    rw [expand]
    exact ⟨by rw [later.1]; omega, later.2⟩

theorem length_of_mem_roundKeys {key : Bytes} (some : key ≠ []) (whole : key.length % 4 = 0) :
    ∀ roundKey ∈ roundKeys key, roundKey.length = 16 := by
  have nonempty := List.length_pos_iff.mpr some
  have size : (chunks 4 key).toArray.size = key.length / 4 := by
    rw [List.size_toArray, length_chunks (by decide) key whole]
  have four : ∀ word ∈ (chunks 4 key).toArray, word.length = 4 := by
    simpa using length_of_mem_chunks (by decide) key whole
  have expanded := expand_words (by omega) (4 * (key.length / 4 + 7) - key.length / 4) 1 _
    (Nat.le_of_eq size.symm) four
  rw [size, ← Array.length_toList] at expanded
  have length := length_flatten fun word mine => expanded.2 word (Array.mem_toList_iff.mp mine)
  rw [expanded.1] at length
  exact length_of_mem_chunks (by decide) _ (by omega)

end Aes

theorem aes_lawful {key : Bytes} (some : key ≠ []) (words : key.length % 4 = 0) :
    (aes key).Lawful where
  blockSize_pos := Nat.zero_lt_succ 15
  length_encrypt := Aes.length_encrypt _ (Aes.length_of_mem_roundKeys some words)
  length_decrypt := Aes.length_decrypt _ (Aes.length_of_mem_roundKeys some words)
  decrypt_encrypt := Aes.decrypt_encrypt _ (Aes.length_of_mem_roundKeys some words)

end CryptoProvider.Cipher
