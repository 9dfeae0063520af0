import CryptoProvider.Cipher.Buffering
import CryptoProvider.Proofs.Cipher.Modes

/-!
The two calls by which a text goes through a cipher into a buffer write together what is encrypted or
decrypted in one piece, the first no more than there are data and the second at most a block.
-/

set_option autoImplicit false

namespace CryptoProvider.Cipher

open Bytes

namespace Direction

/-- What becomes of the data in one piece. -/
def whole? : Direction → BlockCipher → CipherMode → (iv data : Bytes) → (padding : Bool) →
    Option Bytes
  | encrypt => encrypt?
  | decrypt => decrypt?

theorem length_carry {c : BlockCipher} {mode : CipherMode} {iv text : Bytes}
    (start : iv.length = c.blockSize) (whole : text.length % c.blockSize = 0) :
    (carry c mode iv text).length = c.blockSize := by
  unfold carry
  split
  case isFalse => exact start
  case isTrue chained =>
    have longer : c.blockSize ≤ text.length :=
      Nat.le_of_dvd (List.length_pos_iff.mpr chained.2) (Nat.dvd_of_mod_eq_zero whole)
    rw [List.length_drop]
    omega

end Direction

section

variable {c : BlockCipher} (lawful : c.Lawful)

include lawful

theorem carry_block {iv block tail : Bytes} (full : block.length = c.blockSize)
    (others : tail.length % c.blockSize = 0) :
    Direction.carry c .cbc iv (block ++ tail) = Direction.carry c .cbc block tail := by
  have positive := lawful.blockSize_pos
  have nonempty : block ≠ [] := List.ne_nil_of_length_pos (full ▸ positive)
  by_cases none : tail = []
  · simp [Direction.carry, none, full, nonempty]
  · have longer : c.blockSize ≤ tail.length :=
      Nat.le_of_dvd (List.length_pos_iff.mpr none) (Nat.dvd_of_mod_eq_zero others)
    have split : (block ++ tail).length - c.blockSize =
        block.length + (tail.length - c.blockSize) := by
      rw [List.length_append]
      omega
    rw [Direction.carry, Direction.carry, if_pos ⟨rfl, by simp [nonempty]⟩, if_pos ⟨rfl, none⟩,
      split, List.drop_length_add_append]

theorem chainEncrypt_append {iv first tail : Bytes} (start : iv.length = c.blockSize)
    (whole : first.length % c.blockSize = 0) :
    let text := chainEncrypt c iv (chunks c.blockSize first)
    chainEncrypt c iv (chunks c.blockSize (first ++ tail)) =
      text ++ chainEncrypt c (Direction.carry c .cbc iv text) (chunks c.blockSize tail) := by
  have positive := lawful.blockSize_pos
  induction first, whole using block_induction generalizing iv with
  | nil => simp [chainEncrypt, Direction.carry]
  | block block others full whole ih =>
    have encrypted : (c.encrypt (xor block iv)).length = c.blockSize :=
      lawful.length_encrypt _ (length_xor_of_eq full start)
    have further := length_chainEncrypt lawful _ others encrypted whole
    have aligned := whole
    rw [← further] at aligned
    simp only [List.append_assoc, chunks_append positive full, chainEncrypt]
    rw [ih encrypted, carry_block lawful encrypted aligned]

theorem chainDecrypt_append {iv first tail : Bytes} (start : iv.length = c.blockSize)
    (whole : first.length % c.blockSize = 0) :
    chainDecrypt c iv (chunks c.blockSize (first ++ tail)) =
      chainDecrypt c iv (chunks c.blockSize first) ++
        chainDecrypt c (Direction.carry c .cbc iv first) (chunks c.blockSize tail) := by
  have positive := lawful.blockSize_pos
  induction first, whole using block_induction generalizing iv with
  | nil => simp [chainDecrypt, Direction.carry]
  | block block others full whole ih =>
    simp only [List.append_assoc, chunks_append positive full, chainDecrypt]
    rw [ih full, carry_block lawful full whole]

namespace Direction

variable {mode : CipherMode} {iv data : Bytes}

/-- Whole blocks go through by themselves, and what follows goes on from them. -/
theorem run_append (direction : Direction) {first : Bytes} (tail : Bytes) (block : mode ≠ .ctr)
    (vector : mode ≠ .ecb → iv.length = c.blockSize) (whole : first.length % c.blockSize = 0) :
    direction.run c mode iv (first ++ tail) =
      direction.run c mode iv first ++
        direction.run c mode (direction.resume c mode iv first) tail := by
  cases mode with
  | ctr => contradiction
  | cbc =>
    cases direction with
    | encrypt => exact chainEncrypt_append lawful (vector nofun) whole
    | decrypt => exact chainDecrypt_append lawful (vector nofun) whole
  | ecb =>
    cases direction with
    | encrypt | decrypt =>
      simp only [run, transform, inverseTransform, chunks_whole_append lawful.blockSize_pos whole,
        List.flatMap_append]

theorem length_run (direction : Direction) (block : mode ≠ .ctr)
    (vector : mode ≠ .ecb → iv.length = c.blockSize) (whole : data.length % c.blockSize = 0) :
    (direction.run c mode iv data).length = data.length := by
  cases direction with
  | encrypt => exact length_transform lawful vector block whole
  | decrypt => exact length_inverseTransform lawful vector block whole

theorem length_run_ctr (direction : Direction) :
    (direction.run c .ctr iv data).length = data.length := by
  cases direction <;> exact length_counterStream lawful (toNat iv) data

theorem length_resume (direction : Direction) (block : mode ≠ .ctr)
    (vector : mode ≠ .ecb → iv.length = c.blockSize) (whole : data.length % c.blockSize = 0)
    (chained : mode ≠ .ecb) :
    (direction.resume c mode iv data).length = c.blockSize := by
  cases direction with
  | decrypt => exact length_carry (vector chained) whole
  | encrypt =>
    refine length_carry (vector chained) ?_
    rw [length_transform lawful vector block whole, whole]

end Direction

end

/-! What the first call keeps back, and what it passes on. -/

namespace Direction

variable (direction : Direction) (c : BlockCipher) (mode : CipherMode) (data : Bytes)
  (padding : Bool)

theorem withheld_le : direction.withheld c mode data padding ≤ data.length := by
  unfold withheld
  split
  · exact Nat.zero_le _
  · split
    · exact Nat.min_le_right _ _
    · exact Nat.mod_le _ _

theorem passed_append_rest :
    direction.passed c mode data padding ++ direction.rest c mode data padding = data :=
  List.take_append_drop _ _

theorem length_rest :
    (direction.rest c mode data padding).length = direction.withheld c mode data padding := by
  have within := withheld_le direction c mode data padding
  rw [rest, List.length_drop]
  omega

variable {mode}

theorem passed_whole (block : mode ≠ .ctr) :
    (direction.passed c mode data padding).length % c.blockSize = 0 := by
  have within := withheld_le direction c mode data padding
  rw [passed, List.length_take, Nat.min_eq_left (Nat.sub_le _ _)]
  unfold withheld
  rw [if_neg block]
  split
  case isTrue last =>
    obtain ⟨-, -, whole⟩ := last
    rcases Nat.lt_or_ge data.length c.blockSize with shorter | longer
    · rw [Nat.min_eq_right (Nat.le_of_lt shorter), Nat.sub_self, Nat.zero_mod]
    · rw [Nat.min_eq_left longer, ← Nat.mod_eq_sub_mod longer, whole]
  case isFalse => exact Nat.sub_mod_eq_zero_of_mod_eq (Nat.mod_mod _ _).symm

end Direction

/-! Padding goes to the last block, and is taken off it. -/

theorem pad_append {size : Nat} {first : Bytes} (whole : first.length % size = 0) (tail : Bytes) :
    pad size (first ++ tail) = first ++ pad size tail := by
  have same : (first ++ tail).length % size = tail.length % size := by
    rw [List.length_append, Nat.add_mod, whole, Nat.zero_add, Nat.mod_mod]
  rw [pad, pad, same, List.append_assoc]

theorem unpad?_append {size : Nat} (small : size < 256) {last : Bytes}
    (block : last.length = size) (first : Bytes) :
    unpad? size (first ++ last) = (unpad? size last).map (first ++ ·) := by
  refine Option.ext fun kept => ?_
  simp only [Option.map_eq_some_iff, unpad?_eq_some small]
  constructor
  · rintro ⟨missing, any, atMost, same⟩
    rcases List.append_eq_append_iff.mp same with ⟨more, rfl, rfl⟩ | ⟨more, rfl, fills⟩
    · exact ⟨more, ⟨missing, any, atMost, rfl⟩, rfl⟩
    · -- There is no more padding than the last block has bytes.
      have lengths := congrArg List.length fills
      rw [List.length_replicate, List.length_append, block] at lengths
      obtain rfl := List.length_eq_zero_iff.mp (show more.length = 0 by omega)
      exact ⟨[], ⟨missing, any, atMost, fills.symm⟩, by simp⟩
  · rintro ⟨kept, ⟨missing, any, atMost, rfl⟩, rfl⟩
    exact ⟨missing, any, atMost, (List.append_assoc _ _ _).symm⟩

-- No padding can be taken off no data.
theorem decrypt?_nil {c : BlockCipher} {mode : CipherMode} {iv : Bytes} (block : mode ≠ .ctr) :
    decrypt? c mode iv [] true = none := by
  cases mode with
  | ctr => contradiction
  | ecb | cbc => simp [decrypt?, inverseTransform, chainDecrypt, unpad?]

namespace Direction

variable {c : BlockCipher} {mode : CipherMode} {iv data : Bytes}

theorem rest_eq_nil (direction : Direction) (data : Bytes) (block : mode ≠ .ctr) :
    direction.rest c mode data false = [] ↔ data.length % c.blockSize = 0 := by
  rw [← List.length_eq_zero_iff, length_rest]
  simp [withheld, block]

theorem length_rest_padded (positive : 0 < c.blockSize) (data : Bytes) (block : mode ≠ .ctr) :
    (decrypt.rest c mode data true).length = c.blockSize ↔
      data ≠ [] ∧ data.length % c.blockSize = 0 := by
  rw [length_rest, ← List.length_pos_iff]
  simp only [withheld, if_neg block, true_and]
  split
  case isTrue whole =>
    constructor
    · intro full
      exact ⟨by omega, whole⟩
    · rintro ⟨any, -⟩
      exact Nat.min_eq_left (Nat.le_of_dvd any (Nat.dvd_of_mod_eq_zero whole))
  case isFalse torn =>
    have below := Nat.mod_lt data.length positive
    simp only [torn, and_false, iff_false]
    omega

theorem finish_bare (direction : Direction) (block : mode ≠ .ctr) :
    (direction.finish c mode iv data false).map (direction.update c mode iv data false ++ ·) =
      direction.whole? c mode iv data false := by
  have bare := rest_eq_nil (c := c) direction data block
  by_cases whole : data.length % c.blockSize = 0
  · have nothing := bare.mpr whole
    have all := passed_append_rest direction c mode data false
    rw [nothing, List.append_nil] at all
    cases direction <;>
      simp [finish, update, run, nothing, all, whole?, encrypt?, decrypt?, block, whole]
  · have something := mt bare.mp whole
    cases direction <;> simp [finish, something, whole?, encrypt?, decrypt?, block, whole]

section

variable (lawful : c.Lawful) (vector : mode ≠ .ecb → iv.length = c.blockSize)

include lawful vector

theorem finish_encrypt_padded (block : mode ≠ .ctr) :
    (encrypt.finish c mode iv data true).map (encrypt.update c mode iv data true ++ ·) =
      encrypt? c mode iv data true := by
  have whole := passed_whole encrypt c data true block
  have split := passed_append_rest encrypt c mode data true
  have padded := run_append lawful encrypt (pad c.blockSize (encrypt.rest c mode data true)) block
    vector whole
  rw [← pad_append whole, split] at padded
  simp only [finish, update, encrypt?, if_neg block, if_true, Option.map_some]
  exact congrArg some padded.symm

theorem finish_decrypt_padded (small : c.blockSize < 256) (block : mode ≠ .ctr) :
    (decrypt.finish c mode iv data true).map (decrypt.update c mode iv data true ++ ·) =
      decrypt? c mode iv data true := by
  have whole := passed_whole decrypt c data true block
  have split := passed_append_rest decrypt c mode data true
  have full := length_rest_padded lawful.blockSize_pos data block
  by_cases last : (decrypt.rest c mode data true).length = c.blockSize
  · have aligned : (decrypt.rest c mode data true).length % c.blockSize = 0 := by
      rw [last, Nat.mod_self]
    have decrypted := run_append lawful decrypt (decrypt.rest c mode data true) block vector whole
    have width := length_run lawful decrypt block
      (length_resume lawful decrypt block vector whole) aligned
    rw [split] at decrypted
    calc (decrypt.finish c mode iv data true).map (decrypt.update c mode iv data true ++ ·)
        = (unpad? c.blockSize (decrypt.run c mode
            (decrypt.resume c mode iv (decrypt.passed c mode data true))
            (decrypt.rest c mode data true))).map (decrypt.update c mode iv data true ++ ·) := by
          simp only [finish, if_neg block, if_pos last, run]
      _ = unpad? c.blockSize (decrypt.run c mode iv data) := by
          rw [decrypted, unpad?_append small (width.trans last), update]
      _ = decrypt? c mode iv data true := by
          simp only [decrypt?, run, if_neg block, (full.mp last).2, ne_eq, not_true, if_true,
            if_false]
  · have refused : decrypt? c mode iv data true = none := by
      by_cases torn : data.length % c.blockSize = 0
      · have empty : data = [] := Decidable.not_not.mp fun any => last (full.mpr ⟨any, torn⟩)
        rw [empty, decrypt?_nil block]
      · simp [decrypt?, block, torn]
    simp [finish, block, last, refused]

/-- Both calls together write what is encrypted or decrypted in one piece, and fail if that fails. -/
theorem finish_eq (small : c.blockSize < 256) (direction : Direction) (padding : Bool) :
    (direction.finish c mode iv data padding).map (direction.update c mode iv data padding ++ ·) =
      direction.whole? c mode iv data padding := by
  by_cases stream : mode = .ctr
  · subst stream
    have all : direction.passed c .ctr data padding = data := by simp [passed, withheld]
    cases direction <;> simp [finish, update, all, whole?, encrypt?, decrypt?, run]
  cases padding with
  | false => exact finish_bare direction stream
  | true =>
    cases direction with
    | encrypt => exact finish_encrypt_padded lawful vector stream
    | decrypt => exact finish_decrypt_padded lawful vector small stream

/-- The first call writes no more than it is given. -/
theorem length_update_le (direction : Direction) (padding : Bool) :
    (direction.update c mode iv data padding).length ≤ data.length := by
  have part : (direction.passed c mode data padding).length ≤ data.length :=
    List.length_take_le' _ _
  by_cases stream : mode = .ctr
  · subst stream
    exact Nat.le_trans (Nat.le_of_eq (length_run_ctr lawful direction)) part
  · have whole := passed_whole direction c data padding stream
    exact Nat.le_trans (Nat.le_of_eq (length_run lawful direction stream vector whole)) part

/-- The second call writes a block at most, and nothing if there are no blocks. -/
theorem length_finish_le (small : c.blockSize < 256) (direction : Direction) {padding : Bool}
    {last : Bytes} (written : direction.finish c mode iv data padding = some last) :
    last.length ≤ if mode = .ctr then 0 else c.blockSize := by
  by_cases stream : mode = .ctr
  · simp only [finish, if_pos stream, Option.some.injEq] at written
    simp [← written]
  rw [if_neg stream]
  cases padding with
  | false =>
    have none : last = [] := by
      cases direction <;> simp_all [finish]
    simp [none]
  | true =>
    have whole := passed_whole direction c data true stream
    have resumed := length_resume lawful direction stream vector whole
    have rest := length_rest direction c mode data true
    cases direction with
    | encrypt =>
      have short : (encrypt.rest c mode data true).length < c.blockSize := by
        rw [rest]
        simpa [withheld, stream] using Nat.mod_lt data.length lawful.blockSize_pos
      have length := length_transform lawful resumed stream
        (length_pad lawful.blockSize_pos (encrypt.rest c mode data true))
      simp only [finish, if_neg stream, Option.some.injEq] at written
      rw [← written, length, length_pad_eq lawful.blockSize_pos, Nat.div_eq_of_lt short,
        Nat.zero_add, Nat.one_mul]
    | decrypt =>
      simp only [finish, if_neg stream] at written
      split at written
      case isFalse => cases written
      case isTrue full =>
        have length := length_inverseTransform lawful resumed stream
          (by rw [full, Nat.mod_self] : (decrypt.rest c mode data true).length % c.blockSize = 0)
        obtain ⟨missing, -, -, same⟩ := (unpad?_eq_some small).mp written
        rw [← full, ← length, same, List.length_append]
        exact Nat.le_add_right _ _

end

/-- What fits a buffer comes out of it as it was written. -/
theorem through_eq {direction : Direction} {padding : Bool} {room : Nat}
    (fits : ∀ last ∈ direction.finish c mode iv data padding,
      (direction.update c mode iv data padding).length + last.length ≤ room) :
    direction.through c mode iv data padding room =
      (direction.finish c mode iv data padding).map
        (direction.update c mode iv data padding ++ ·) := by
  unfold through
  cases written : direction.finish c mode iv data padding with
  | none => rfl
  | some last =>
    have enough := fits last written
    generalize direction.update c mode iv data padding = first at enough ⊢
    have behind : last.length ≤ (List.replicate (room - first.length) (0 : UInt8)).length := by
      rw [List.length_replicate]
      omega
    have before : first.length ≤ (List.replicate room (0 : UInt8)).length := by
      rw [List.length_replicate]
      omega
    simp only [overwrite_of_room before, List.drop_replicate, List.take_left, List.drop_left,
      overwrite_of_room behind, ← List.append_assoc, ← List.length_append, Option.bind_eq_bind,
      Option.bind_some, Option.map_some]
    rfl

end Direction

end CryptoProvider.Cipher
