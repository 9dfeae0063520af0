import CryptoProvider.Cipher.Mode
import CryptoProvider.Proofs.Bytes.Chunks
import CryptoProvider.Proofs.Bytes.Numbers
import Mathlib.Data.Set.Finite.List

/-!
What encryption and decryption have to do with each other, mode by mode. Of the block cipher it is
only used that decryption undoes encryption; as there are finitely many blocks, encryption undoes
decryption too, so a text is what data are encrypted to if and only if it is decrypted to them.
-/

set_option autoImplicit false

namespace CryptoProvider

open Bytes

namespace BlockCipher

/-- A string of one block. -/
abbrev Block (c : BlockCipher) : Type :=
  {block : Bytes // block.length = c.blockSize}

namespace Lawful

variable {c : BlockCipher}

theorem finite_block (c : BlockCipher) : Finite c.Block := by
  have bytes : Finite UInt8 :=
    Finite.of_injective UInt8.toFin fun _ _ same => UInt8.toFin_inj.mp same
  exact (List.finite_length_eq UInt8 c.blockSize).to_subtype

def encryptBlock (lawful : c.Lawful) (block : c.Block) : c.Block :=
  ⟨c.encrypt block, lawful.length_encrypt block block.2⟩

theorem encryptBlock_injective (lawful : c.Lawful) : Function.Injective lawful.encryptBlock := by
  intro first second same
  have texts : c.encrypt first = c.encrypt second := congrArg Subtype.val same
  apply Subtype.ext
  rw [← lawful.decrypt_encrypt first first.2, texts, lawful.decrypt_encrypt second second.2]

/-- Encryption undoes decryption: there are finitely many blocks, and no two of them are encrypted
to the same. -/
theorem encrypt_decrypt (lawful : c.Lawful) {block : Bytes} (whole : block.length = c.blockSize) :
    c.encrypt (c.decrypt block) = block := by
  have blocks := finite_block c
  have onto := Finite.surjective_of_injective lawful.encryptBlock_injective
  obtain ⟨⟨plain, size⟩, same⟩ := onto ⟨block, whole⟩
  have text : c.encrypt plain = block := congrArg Subtype.val same
  rw [← text, lawful.decrypt_encrypt plain size]

end Lawful

end BlockCipher

namespace Cipher

/-! Padding. -/

section Padding

variable {size : Nat} {data kept : Bytes}

theorem length_pad_eq (positive : 0 < size) (data : Bytes) :
    (pad size data).length = (data.length / size + 1) * size := by
  have below := Nat.mod_lt data.length positive
  have split := Nat.div_add_mod data.length size
  rw [pad, List.length_append, List.length_replicate, Nat.add_one_mul, Nat.mul_comm]
  omega

theorem length_pad (positive : 0 < size) (data : Bytes) : (pad size data).length % size = 0 := by
  rw [length_pad_eq positive, Nat.mul_mod_left]

theorem unpad?_replicate {missing : Nat} (any : 0 < missing) (atMost : missing ≤ size)
    (small : size < 256) (data : Bytes) :
    unpad? size (data ++ List.replicate missing (UInt8.ofNat missing)) = some data := by
  have read : (UInt8.ofNat missing).toNat = missing := by
    rw [UInt8.toNat_ofNat']
    omega
  have last : (data ++ List.replicate missing (UInt8.ofNat missing)).getLast? =
      some (UInt8.ofNat missing) := by
    rw [List.getLast?_append, List.getLast?_replicate, if_neg (by omega)]
    rfl
  have back : data.length + missing - missing = data.length := by omega
  have valid : 0 < missing ∧ missing ≤ size ∧ missing ≤ data.length + missing := by omega
  simp only [unpad?, last, read, List.length_append, List.length_replicate, back,
    List.take_left, List.drop_left, valid, and_self, if_true]

theorem unpad?_pad (positive : 0 < size) (small : size < 256) (data : Bytes) :
    unpad? size (pad size data) = some data := by
  have below := Nat.mod_lt data.length positive
  exact unpad?_replicate (Nat.sub_pos_of_lt below) (Nat.sub_le _ _) small data

/-- Padding is taken off a text that ends in so many bytes, each of them holding that number. -/
theorem unpad?_eq_some (small : size < 256) :
    unpad? size data = some kept ↔
      ∃ missing, 0 < missing ∧ missing ≤ size ∧
        data = kept ++ List.replicate missing (UInt8.ofNat missing) := by
  constructor
  · intro unpadded
    simp only [unpad?] at unpadded
    cases last : data.getLast? with
    | none => simp [last] at unpadded
    | some byte =>
      simp only [last] at unpadded
      split at unpadded
      case isFalse => cases unpadded
      case isTrue valid =>
        obtain ⟨any, atMost, -, padding⟩ := valid
        cases unpadded
        refine ⟨byte.toNat, any, atMost, ?_⟩
        rw [UInt8.ofNat_toNat, ← padding, List.take_append_drop]
  · rintro ⟨missing, any, atMost, rfl⟩
    exact unpad?_replicate any atMost small kept

-- What was taken off a string of whole blocks completes a block.
theorem missing_of_whole {length missing : Nat} (whole : length % size = 0) (some : 0 < missing)
    (atMost : missing ≤ size) (within : missing ≤ length) :
    size - (length - missing) % size = missing := by
  have positive : 0 < size := Nat.lt_of_lt_of_le some atMost
  obtain ⟨count, rfl⟩ := Nat.dvd_of_mod_eq_zero whole
  cases count with
  | zero =>
    rw [Nat.mul_zero] at within
    omega
  | succ count =>
    have rest : size * (count + 1) - missing = size * count + (size - missing) := by
      rw [Nat.mul_succ]
      omega
    rw [rest, Nat.mul_add_mod]
    rcases Nat.lt_or_ge missing size with less | all
    · rw [Nat.mod_eq_of_lt (by omega)]
      omega
    · have same : size - missing = 0 := by omega
      rw [same, Nat.zero_mod]
      omega

theorem pad_of_unpad? (small : size < 256) (whole : data.length % size = 0)
    (unpadded : unpad? size data = some kept) : pad size kept = data := by
  obtain ⟨missing, any, atMost, rfl⟩ := (unpad?_eq_some small).mp unpadded
  have length : kept.length + missing - missing = kept.length := by omega
  rw [List.length_append, List.length_replicate] at whole
  have completes := missing_of_whole whole any atMost (Nat.le_add_left _ _)
  rw [length] at completes
  rw [pad, completes]

theorem unpad?_iff (positive : 0 < size) (small : size < 256) (whole : data.length % size = 0) :
    unpad? size data = some kept ↔ data = pad size kept := by
  constructor
  · intro unpadded
    exact (pad_of_unpad? small whole unpadded).symm
  · intro same
    rw [same, unpad?_pad positive small]

end Padding

/-! The modes. -/

-- A first block that is mixed with a whole one is the first block of what comes out.
theorem chunks_mixed {size : Nat} (positive : 0 < size) {data mixer rest : Bytes}
    (some : data ≠ []) (width : mixer.length = size) (ends : data.drop size = [] → rest = []) :
    chunks size (xor (data.take size) mixer ++ rest) =
      xor (data.take size) mixer :: chunks size rest := by
  have length : (xor (data.take size) mixer).length = min size data.length := by
    rw [length_xor, width, List.length_take]
    omega
  have nonempty : 0 < data.length := List.length_pos_iff.mpr some
  have front : xor (data.take size) mixer ≠ [] := List.ne_nil_of_length_pos (by omega)
  have cut : (xor (data.take size) mixer).length = size ∨ rest = [] := by
    rcases Nat.le_total size data.length with longer | shorter
    · exact .inl (by omega)
    · exact .inr (ends (List.drop_of_length_le shorter))
  exact chunks_cut front (by omega) cut

section Modes

variable {c : BlockCipher} (lawful : c.Lawful)

include lawful

theorem length_chainEncrypt (previous data : Bytes) (start : previous.length = c.blockSize)
    (whole : data.length % c.blockSize = 0) :
    (chainEncrypt c previous (chunks c.blockSize data)).length = data.length := by
  have positive := lawful.blockSize_pos
  induction data, whole using block_induction generalizing previous with
  | nil => simp [chainEncrypt]
  | block block rest full _ ih =>
    have encrypted : (c.encrypt (xor block previous)).length = c.blockSize :=
      lawful.length_encrypt _ (length_xor_of_eq full start)
    rw [chunks_append positive full, chainEncrypt]
    simp only [List.length_append, encrypted, full, ih _ encrypted]

theorem length_chainDecrypt (previous text : Bytes) (start : previous.length = c.blockSize)
    (whole : text.length % c.blockSize = 0) :
    (chainDecrypt c previous (chunks c.blockSize text)).length = text.length := by
  have positive := lawful.blockSize_pos
  induction text, whole using block_induction generalizing previous with
  | nil => simp [chainDecrypt]
  | block block rest full _ ih =>
    rw [chunks_append positive full, chainDecrypt]
    simp only [List.length_append, length_xor_of_eq (lawful.length_decrypt block full) start, full,
      ih _ full]

/-- Chained blocks: each is mixed with the text before it, which decryption knows as well. -/
theorem chainDecrypt_chainEncrypt (previous data : Bytes) (start : previous.length = c.blockSize)
    (whole : data.length % c.blockSize = 0) :
    chainDecrypt c previous
      (chunks c.blockSize (chainEncrypt c previous (chunks c.blockSize data))) = data := by
  have positive := lawful.blockSize_pos
  induction data, whole using block_induction generalizing previous with
  | nil => simp [chainEncrypt, chainDecrypt]
  | block block rest full _ ih =>
    have mixed : (xor block previous).length = c.blockSize := length_xor_of_eq full start
    have encrypted := lawful.length_encrypt _ mixed
    have covers : block.length ≤ previous.length := Nat.le_of_eq (full.trans start.symm)
    simp only [chunks_append positive full, chainEncrypt, chunks_append positive encrypted,
      chainDecrypt, lawful.decrypt_encrypt _ mixed, xor_cancel covers, ih _ encrypted]

theorem chainEncrypt_chainDecrypt (previous text : Bytes) (start : previous.length = c.blockSize)
    (whole : text.length % c.blockSize = 0) :
    chainEncrypt c previous
      (chunks c.blockSize (chainDecrypt c previous (chunks c.blockSize text))) = text := by
  have positive := lawful.blockSize_pos
  induction text, whole using block_induction generalizing previous with
  | nil => simp [chainEncrypt, chainDecrypt]
  | block block rest full _ ih =>
    have decrypted := lawful.length_decrypt block full
    have mixed : (xor (c.decrypt block) previous).length = c.blockSize :=
      length_xor_of_eq decrypted start
    have covers : (c.decrypt block).length ≤ previous.length :=
      Nat.le_of_eq (decrypted.trans start.symm)
    simp only [chunks_append positive full, chainDecrypt, chunks_append positive mixed,
      chainEncrypt, xor_cancel covers, lawful.encrypt_decrypt full, ih _ full]

theorem length_counterStream (counter : Nat) (data : Bytes) :
    (counterStream c counter (chunks c.blockSize data)).length = data.length := by
  have positive := lawful.blockSize_pos
  induction data using chunks.induct c.blockSize generalizing counter with
  | case1 data none =>
    have empty : data = [] := none.resolve_left (Nat.ne_of_gt positive)
    simp [empty, counterStream]
  | case2 data some ih =>
    have nonempty : data ≠ [] := fun empty => some (.inr empty)
    have width : (c.encrypt (bigEndian c.blockSize counter)).length = c.blockSize :=
      lawful.length_encrypt _ (length_bigEndian _ _)
    rw [chunks_of_pos positive nonempty, counterStream, List.length_append, ih, length_xor, width,
      List.length_take, List.length_drop]
    omega

/-- Data mixed with the encrypted counters twice are the data again, whatever their length. -/
theorem counterStream_counterStream (counter : Nat) (data : Bytes) :
    counterStream c counter
      (chunks c.blockSize (counterStream c counter (chunks c.blockSize data))) = data := by
  have positive := lawful.blockSize_pos
  induction data using chunks.induct c.blockSize generalizing counter with
  | case1 data none =>
    have empty : data = [] := none.resolve_left (Nat.ne_of_gt positive)
    simp [empty, counterStream]
  | case2 data some ih =>
    have nonempty : data ≠ [] := fun empty => some (.inr empty)
    have width : (c.encrypt (bigEndian c.blockSize counter)).length = c.blockSize :=
      lawful.length_encrypt _ (length_bigEndian _ _)
    have covers : (data.take c.blockSize).length ≤
        (c.encrypt (bigEndian c.blockSize counter)).length := by
      rw [width]
      exact List.length_take_le _ _
    have ends (last : data.drop c.blockSize = []) :
        counterStream c (counter + 1) (chunks c.blockSize (data.drop c.blockSize)) = [] := by
      rw [last, chunks_nil, counterStream]
    rw [chunks_of_pos positive nonempty, counterStream, chunks_mixed positive nonempty width ends,
      counterStream, xor_cancel covers, ih, List.take_append_drop]

variable {mode : CipherMode} {iv data text : Bytes}

theorem length_transform (vector : mode ≠ .ecb → iv.length = c.blockSize) (block : mode ≠ .ctr)
    (whole : data.length % c.blockSize = 0) : (transform c mode iv data).length = data.length := by
  cases mode with
  | ecb => exact length_flatMap_chunks lawful.blockSize_pos lawful.length_encrypt data whole
  | cbc => exact length_chainEncrypt lawful iv data (vector nofun) whole
  | ctr => contradiction

theorem inverseTransform_transform (vector : mode ≠ .ecb → iv.length = c.blockSize)
    (block : mode ≠ .ctr) (whole : data.length % c.blockSize = 0) :
    inverseTransform c mode iv (transform c mode iv data) = data := by
  cases mode with
  | ecb =>
    exact flatMap_chunks_inverse lawful.blockSize_pos lawful.length_encrypt lawful.decrypt_encrypt
      data whole
  | cbc => exact chainDecrypt_chainEncrypt lawful iv data (vector nofun) whole
  | ctr => contradiction

theorem transform_inverseTransform (vector : mode ≠ .ecb → iv.length = c.blockSize)
    (block : mode ≠ .ctr) (whole : text.length % c.blockSize = 0) :
    transform c mode iv (inverseTransform c mode iv text) = text := by
  cases mode with
  | ecb =>
    exact flatMap_chunks_inverse lawful.blockSize_pos lawful.length_decrypt
      (fun _ => lawful.encrypt_decrypt) text whole
  | cbc => exact chainEncrypt_chainDecrypt lawful iv text (vector nofun) whole
  | ctr => contradiction

theorem length_inverseTransform (vector : mode ≠ .ecb → iv.length = c.blockSize)
    (block : mode ≠ .ctr) (whole : text.length % c.blockSize = 0) :
    (inverseTransform c mode iv text).length = text.length := by
  cases mode with
  | ecb => exact length_flatMap_chunks lawful.blockSize_pos lawful.length_decrypt text whole
  | cbc => exact length_chainDecrypt lawful iv text (vector nofun) whole
  | ctr => contradiction

theorem transform_iff_of_stream :
    transform c .ctr iv data = text ↔ inverseTransform c .ctr iv text = data := by
  constructor
  · intro same
    rw [← same]
    exact counterStream_counterStream lawful (toNat iv) data
  · intro same
    rw [← same]
    exact counterStream_counterStream lawful (toNat iv) text

theorem transform_iff_of_blocks (data text : Bytes)
    (vector : mode ≠ .ecb → iv.length = c.blockSize) (block : mode ≠ .ctr) :
    data.length % c.blockSize = 0 ∧ transform c mode iv data = text ↔
      text.length % c.blockSize = 0 ∧ inverseTransform c mode iv text = data := by
  constructor
  · intro encrypted
    obtain ⟨whole, rfl⟩ := encrypted
    rw [length_transform lawful vector block whole]
    exact ⟨whole, inverseTransform_transform lawful vector block whole⟩
  · intro decrypted
    obtain ⟨whole, rfl⟩ := decrypted
    rw [length_inverseTransform lawful vector block whole]
    exact ⟨whole, transform_inverseTransform lawful vector block whole⟩

/-- A text is what data are encrypted to if and only if it is decrypted to them. -/
theorem encrypt?_iff_decrypt? (small : c.blockSize < 256)
    (vector : mode ≠ .ecb → iv.length = c.blockSize) (padding : Bool) :
    encrypt? c mode iv data padding = some text ↔ decrypt? c mode iv text padding = some data := by
  have positive := lawful.blockSize_pos
  by_cases stream : mode = .ctr
  · simp only [encrypt?, decrypt?, stream, if_true, Option.some.injEq]
    exact transform_iff_of_stream lawful
  · cases padding with
    | false =>
      have blocks := transform_iff_of_blocks lawful data text vector stream
      calc encrypt? c mode iv data false = some text
          ↔ data.length % c.blockSize = 0 ∧ transform c mode iv data = text := by
            simp [encrypt?, stream]
        _ ↔ text.length % c.blockSize = 0 ∧ inverseTransform c mode iv text = data := blocks
        _ ↔ decrypt? c mode iv text false = some data := by
            simp [decrypt?, stream]
    | true =>
      have blocks := transform_iff_of_blocks lawful (pad c.blockSize data) text vector stream
      calc encrypt? c mode iv data true = some text
          ↔ transform c mode iv (pad c.blockSize data) = text := by
            simp [encrypt?, stream]
        _ ↔ (pad c.blockSize data).length % c.blockSize = 0 ∧
              transform c mode iv (pad c.blockSize data) = text := by
            simp [length_pad positive]
        _ ↔ text.length % c.blockSize = 0 ∧
              inverseTransform c mode iv text = pad c.blockSize data := blocks
        _ ↔ text.length % c.blockSize = 0 ∧
              unpad? c.blockSize (inverseTransform c mode iv text) = some data := by
            apply and_congr_right
            intro whole
            rw [unpad?_iff positive small]
            rw [length_inverseTransform lawful vector stream whole, whole]
        _ ↔ decrypt? c mode iv text true = some data := by
            simp [decrypt?, stream]

end Modes

/-- Data are encrypted unless they should fill whole blocks and do not. -/
theorem exists_encrypt? (c : BlockCipher) (mode : CipherMode) (iv data : Bytes) (padding : Bool) :
    (∃ text, encrypt? c mode iv data padding = some text) ↔
      mode = .ctr ∨ padding = true ∨ data.length % c.blockSize = 0 := by
  unfold encrypt?
  split
  case isTrue stream => simp [stream]
  case isFalse stream =>
    split
    case isTrue padded => simp [padded]
    case isFalse bare =>
      split
      case isTrue whole => simp [whole]
      case isFalse torn => simp [stream, bare, torn]

end Cipher

end CryptoProvider
