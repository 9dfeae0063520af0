import CryptoProvider.Proofs.Cipher.Buffering
import CryptoProvider.Proofs.Cipher.Inverse

/-!
What a cipher product accepts, and how long its answers are. A key, a mode and a vector are refused
before any data are looked at, by the first fault among them; after that only the length of the data
can fail an encryption, and only the length and the padding a decryption. All of it fits a buffer
with room for the data and one block.
-/

set_option autoImplicit false

namespace CryptoProvider

namespace Cipher

open Bytes

/-- A text that ends in a valid padding: so many bytes, a block at most, that hold their number. -/
def EndsPadded (size : Nat) (text : Bytes) : Prop :=
  ∃ kept missing, 0 < missing ∧ missing ≤ size ∧
    text = kept ++ List.replicate missing (UInt8.ofNat missing)

def lastBlock (size : Nat) (text : Bytes) : Bytes :=
  text.drop (text.length - size)

variable {c : BlockCipher} {mode : CipherMode} {iv data text : Bytes} {padding : Bool}

theorem unpad?_eq_none {size : Nat} (small : size < 256) :
    unpad? size data = none ↔ ¬ EndsPadded size data := by
  simp only [EndsPadded, Option.eq_none_iff_forall_ne_some, ne_eq, unpad?_eq_some small,
    not_exists]

-- Only the last block decides whether a text can be rid of its padding.
theorem unpad?_eq_none_last {size : Nat} (small : size < 256) (long : size ≤ text.length) :
    unpad? size text = none ↔ ¬ EndsPadded size (lastBlock size text) := by
  have block : (lastBlock size text).length = size := by
    rw [lastBlock, List.length_drop]
    omega
  have split : text.take (text.length - size) ++ lastBlock size text = text :=
    List.take_append_drop _ _
  have unpadded := unpad?_append small block (text.take (text.length - size))
  rw [split] at unpadded
  rw [unpadded, Option.map_eq_none_iff, unpad?_eq_none small]

theorem encrypt?_eq_none (c : BlockCipher) (mode : CipherMode) (iv data : Bytes)
    (padding : Bool) :
    encrypt? c mode iv data padding = none ↔
      mode ≠ .ctr ∧ padding = false ∧ ¬ c.blockSize ∣ data.length := by
  simp only [Option.eq_none_iff_forall_ne_some, ne_eq, ← not_exists, exists_encrypt?, not_or,
    Bool.not_eq_true, Nat.dvd_iff_mod_eq_zero]

section

variable (lawful : c.Lawful) (vector : mode ≠ .ecb → iv.length = c.blockSize)

include lawful vector

/-- Padding fills the block that was begun, or adds one; without it no byte is added. -/
theorem length_encrypt? (encrypted : encrypt? c mode iv data padding = some text) :
    text.length = if mode = .ctr ∨ padding = false then data.length
      else (data.length / c.blockSize + 1) * c.blockSize := by
  by_cases stream : mode = .ctr
  · subst stream
    cases encrypted
    exact length_counterStream lawful (toNat iv) data
  cases padding with
  | true =>
    simp only [encrypt?, if_neg stream, if_true, Option.some.injEq] at encrypted
    have padded := length_pad lawful.blockSize_pos data
    rw [← encrypted, length_transform lawful vector stream padded,
      length_pad_eq lawful.blockSize_pos]
    simp [stream]
  | false =>
    simp only [encrypt?, if_neg stream, Bool.false_eq_true, if_false] at encrypted
    split at encrypted
    case isTrue whole =>
      cases encrypted
      simpa using length_transform lawful vector stream whole
    case isFalse => cases encrypted

theorem decrypt?_eq_none (small : c.blockSize < 256) (text : Bytes) (padding : Bool) :
    decrypt? c mode iv text padding = none ↔
      mode ≠ .ctr ∧ (¬ c.blockSize ∣ text.length ∨ padding = true ∧
        (text = [] ∨ ¬ EndsPadded c.blockSize
          (lastBlock c.blockSize (inverseTransform c mode iv text)))) := by
  by_cases stream : mode = .ctr
  · simp [decrypt?, stream]
  by_cases torn : c.blockSize ∣ text.length
  case neg =>
    have odd : text.length % c.blockSize ≠ 0 := mt Nat.dvd_of_mod_eq_zero torn
    simp [decrypt?, stream, torn, odd]
  case pos =>
    have whole := Nat.mod_eq_zero_of_dvd torn
    cases padding with
    | false => simp [decrypt?, stream, torn, whole]
    | true =>
      by_cases empty : text = []
      · simp [empty, decrypt?_nil, stream]
      have length := length_inverseTransform lawful vector stream whole
      have long : c.blockSize ≤ (inverseTransform c mode iv text).length :=
        length ▸ Nat.le_of_dvd (List.length_pos_iff.mpr empty) torn
      have refused : decrypt? c mode iv text true = none ↔
          ¬ EndsPadded c.blockSize (lastBlock c.blockSize (inverseTransform c mode iv text)) := by
        rw [← unpad?_eq_none_last small long]
        simp [decrypt?, stream, whole]
      simp [refused, stream, torn, empty]

theorem length_decrypt? (small : c.blockSize < 256)
    (decrypted : decrypt? c mode iv text padding = some data) :
    if mode = .ctr ∨ padding = false then data.length = text.length
    else data.length < text.length ∧ text.length ≤ data.length + c.blockSize := by
  by_cases stream : mode = .ctr
  · subst stream
    cases decrypted
    exact length_counterStream lawful (toNat iv) text
  simp only [decrypt?, if_neg stream] at decrypted
  split at decrypted
  case isTrue => cases decrypted
  case isFalse whole =>
    have length := length_inverseTransform lawful vector stream (Decidable.not_not.mp whole)
    cases padding with
    | false =>
      cases decrypted
      simpa using length
    | true =>
      obtain ⟨missing, any, atMost, same⟩ := (unpad?_eq_some small).mp decrypted
      rw [same, List.length_append, List.length_replicate] at length
      simp only [stream, Bool.true_eq_false, or_self, if_false]
      omega

end

end Cipher

namespace Product.Cipher

open CryptoProvider.Cipher

variable {product : Cipher} {ciphers : CipherSuite} {mode : CipherMode} {key : Bytes}
  {iv : Option Bytes} {data : Bytes} {padding : Bool}

/-- The first fault of a key, a mode and a vector, if there is any. -/
def refusal (product : Cipher) (mode : CipherMode) (key : Bytes) (iv : Option Bytes) :
    Option ParameterFault :=
  if key.length ∉ product.keySizes then some (.keySize product.kind.label key.length)
  else if mode = .ctr ∧ product ≠ aes then some (.modeNotSupported product.kind mode)
  else if mode = .ecb then none
  else match iv with
    | none => some .ivMissing
    | some iv =>
      if iv.length = product.blockSize then none else some (.ivSize product.blockSize iv.length)

/-- Nothing but the first fault matters; and if there is none, the cipher is asked. -/
theorem begun_eq (next : BlockCipher → Bytes → Except Error Bytes) :
    (do
      let cipher ← product.choose ciphers mode key
      let iv ← product.vector mode iv
      next cipher iv) =
    match product.refusal mode key iv with
    | some fault => .error (.invalidParameter fault)
    | none => next (product.underKey ciphers key) (used mode iv) := by
  unfold choose refusal
  by_cases unknown : key.length ∉ product.keySizes
  · simp only [if_pos unknown]
    rfl
  by_cases unoffered : mode = .ctr ∧ product ≠ aes
  · simp only [if_neg unknown, if_pos unoffered]
    rfl
  simp only [if_neg unknown, if_neg unoffered]
  cases mode with
  | ecb => rfl
  | cbc | ctr =>
    cases iv with
    | none => rfl
    | some iv =>
      by_cases size : iv.length = product.blockSize <;> simp [vector, used, size] <;> rfl

theorem refusal_eq_none : product.refusal mode key iv = none ↔ product.Takes mode key iv := by
  constructor
  · intro unrefused
    unfold refusal at unrefused
    split at unrefused
    case isTrue => cases unrefused
    split at unrefused
    case isTrue => cases unrefused
    case isFalse known offered =>
      refine ⟨Decidable.not_not.mp known, by simpa using offered, fun chained => ?_⟩
      rw [if_neg chained] at unrefused
      cases iv with
      | none => cases unrefused
      | some iv =>
        dsimp only at unrefused
        split at unrefused
        case isTrue size => exact ⟨iv, rfl, size⟩
        case isFalse => cases unrefused
  · intro takes
    have offered : ¬ (mode = .ctr ∧ product ≠ aes) := fun both => both.2 (takes.offered both.1)
    unfold refusal
    rw [if_neg (not_not_intro takes.size), if_neg offered]
    split
    case isTrue => rfl
    case isFalse chained =>
      obtain ⟨vector, rfl, size⟩ := takes.block chained
      simp [size]

/-! What a product answers. -/

/-- Data that an encryption cannot take: no padding completes their last block. -/
def Torn (product : Cipher) (mode : CipherMode) (data : Bytes) (padding : Bool) : Prop :=
  mode ≠ .ctr ∧ padding = false ∧ ¬ product.blockSize ∣ data.length

/-- A text that a decryption cannot take: it is not of whole blocks, or has no padding to be taken
off its last block once that is decrypted. -/
def Spoilt (product : Cipher) (ciphers : CipherSuite) (mode : CipherMode) (key : Bytes)
    (iv : Option Bytes) (data : Bytes) (padding : Bool) : Prop :=
  mode ≠ .ctr ∧ (¬ product.blockSize ∣ data.length ∨ padding = true ∧
    (data = [] ∨ ¬ EndsPadded product.blockSize (lastBlock product.blockSize
      (inverseTransform (product.underKey ciphers key) mode (used mode iv) data))))

section

variable (refused : Option ParameterFault) (result : Option Bytes)

/-- The answer where a fault comes before whatever the cipher has to say. -/
def judged : Except Error Bytes :=
  match refused with
  | some fault => .error (.invalidParameter fault)
  | none => answered result

theorem judged_eq_refused {fault : ParameterFault} :
    judged refused result = .error (.invalidParameter fault) ↔ refused = some fault := by
  cases refused with
  | some other => simp [judged]
  | none => cases result <;> simp [judged, answered]

theorem judged_eq_failed :
    judged refused result = .error .cryptoLibrary ↔ refused = none ∧ result = none := by
  cases refused with
  | some fault => simp [judged]
  | none => cases result <;> simp [judged, answered]

theorem judged_eq_ok {text : Bytes} :
    judged refused result = .ok text ↔ refused = none ∧ result = some text := by
  cases refused with
  | some fault => simp [judged]
  | none => cases result <;> simp [judged, answered]

end

theorem encrypt_eq_run :
    product.encrypt ciphers mode key iv data padding =
      judged (product.refusal mode key iv)
        (product.run .encrypt (product.underKey ciphers key) mode (used mode iv) data padding) :=
  begun_eq _

theorem decrypt_eq_run :
    product.decrypt ciphers mode key iv data padding =
      judged (product.refusal mode key iv)
        (product.run .decrypt (product.underKey ciphers key) mode (used mode iv) data padding) :=
  begun_eq _

section

-- A product that takes what it is given goes on with a cipher on its blocks.
variable (keyed : product.Takes mode key iv →
  (product.underKey ciphers key).Lawful ∧
    (product.underKey ciphers key).blockSize = product.blockSize)

include keyed

/-- If nothing is refused, the buffer gives what is made of the data in one piece. -/
theorem judged_run (direction : Direction) :
    judged (product.refusal mode key iv)
        (product.run direction (product.underKey ciphers key) mode (used mode iv) data padding) =
      judged (product.refusal mode key iv)
        (direction.whole? (product.underKey ciphers key) mode (used mode iv) data padding) := by
  cases taken : product.refusal mode key iv with
  | some fault => rfl
  | none =>
    have takes := refusal_eq_none.mp taken
    obtain ⟨lawful, size⟩ := keyed takes
    have vector (chained : mode ≠ .ecb) :
        (used mode iv).length = (product.underKey ciphers key).blockSize :=
      (length_used takes chained).trans size.symm
    rw [run_eq lawful size vector]

theorem encrypt_eq :
    product.encrypt ciphers mode key iv data padding =
      judged (product.refusal mode key iv)
        (encrypt? (product.underKey ciphers key) mode (used mode iv) data padding) :=
  encrypt_eq_run.trans (judged_run keyed .encrypt)

theorem decrypt_eq :
    product.decrypt ciphers mode key iv data padding =
      judged (product.refusal mode key iv)
        (decrypt? (product.underKey ciphers key) mode (used mode iv) data padding) :=
  decrypt_eq_run.trans (judged_run keyed .decrypt)

end

section

variable (lawful : ciphers.Lawful)

include lawful

theorem keyed_of_lawful (takes : product.Takes mode key iv) :
    (product.underKey ciphers key).Lawful ∧
      (product.underKey ciphers key).blockSize = product.blockSize :=
  lawful_underKey lawful takes.size

theorem encrypt_fails_iff :
    product.encrypt ciphers mode key iv data padding = .error .cryptoLibrary ↔
      product.refusal mode key iv = none ∧ product.Torn mode data padding := by
  rw [encrypt_eq (keyed_of_lawful lawful), judged_eq_failed]
  refine and_congr_right fun taken => ?_
  obtain ⟨-, size, -, -⟩ := underKey_of_takes lawful (refusal_eq_none.mp taken)
  rw [encrypt?_eq_none, size, Torn]

theorem encrypt_succeeds_iff :
    (∃ text, product.encrypt ciphers mode key iv data padding = .ok text ∧ text.length =
        if mode = .ctr ∨ padding = false then data.length
        else (data.length / product.blockSize + 1) * product.blockSize) ↔
      product.refusal mode key iv = none ∧ ¬ product.Torn mode data padding := by
  simp only [encrypt_eq (keyed_of_lawful lawful), judged_eq_ok, and_assoc, exists_and_left]
  refine and_congr_right fun taken => ?_
  obtain ⟨cipher, size, -, vector⟩ := underKey_of_takes lawful (refusal_eq_none.mp taken)
  have fails := encrypt?_eq_none (product.underKey ciphers key) mode (used mode iv) data padding
  rw [size] at fails
  rw [Torn, ← fails]
  constructor
  · rintro ⟨text, encrypted, -⟩
    rw [encrypted]
    exact Option.some_ne_none text
  · intro succeeds
    obtain ⟨text, encrypted⟩ := Option.ne_none_iff_exists'.mp succeeds
    exact ⟨text, encrypted, size ▸ length_encrypt? cipher vector encrypted⟩

theorem decrypt_fails_iff :
    product.decrypt ciphers mode key iv data padding = .error .cryptoLibrary ↔
      product.refusal mode key iv = none ∧
        product.Spoilt ciphers mode key iv data padding := by
  rw [decrypt_eq (keyed_of_lawful lawful), judged_eq_failed]
  refine and_congr_right fun taken => ?_
  obtain ⟨cipher, size, small, vector⟩ := underKey_of_takes lawful (refusal_eq_none.mp taken)
  rw [decrypt?_eq_none cipher vector small, size, Spoilt]

theorem decrypt_succeeds_iff :
    (∃ plain, product.decrypt ciphers mode key iv data padding = .ok plain ∧
        if mode = .ctr ∨ padding = false then plain.length = data.length
        else plain.length < data.length ∧ data.length ≤ plain.length + product.blockSize) ↔
      product.refusal mode key iv = none ∧
        ¬ product.Spoilt ciphers mode key iv data padding := by
  simp only [decrypt_eq (keyed_of_lawful lawful), judged_eq_ok, and_assoc, exists_and_left]
  refine and_congr_right fun taken => ?_
  obtain ⟨cipher, size, small, vector⟩ := underKey_of_takes lawful (refusal_eq_none.mp taken)
  have fails := decrypt?_eq_none cipher vector small data padding
  rw [size] at fails
  rw [Spoilt, ← fails]
  constructor
  · rintro ⟨plain, decrypted, -⟩
    rw [decrypted]
    exact Option.some_ne_none plain
  · intro succeeds
    obtain ⟨plain, decrypted⟩ := Option.ne_none_iff_exists'.mp succeeds
    exact ⟨plain, decrypted, size ▸ length_decrypt? cipher vector small decrypted⟩

end

/-- What a product accepts is settled by the first fault of the key, the mode and the vector, and
after that by the data alone. What it answers has a length that follows from theirs, and two calls
write it to a buffer with room for the data and one block more. -/
theorem acceptance (lawful : ciphers.Lawful) (product : Cipher) (mode : CipherMode) (key : Bytes)
    (iv : Option Bytes) (data : Bytes) (padding : Bool) :
    let refused := product.refusal mode key iv
    let encrypted := product.encrypt ciphers mode key iv data padding
    let decrypted := product.decrypt ciphers mode key iv data padding
    (∀ fault, encrypted = .error (.invalidParameter fault) ↔ refused = some fault) ∧
    (∀ fault, decrypted = .error (.invalidParameter fault) ↔ refused = some fault) ∧
    (encrypted = .error .cryptoLibrary ↔ refused = none ∧ product.Torn mode data padding) ∧
    ((∃ text, encrypted = .ok text ∧ text.length =
        if mode = .ctr ∨ padding = false then data.length
        else (data.length / product.blockSize + 1) * product.blockSize) ↔
      refused = none ∧ ¬ product.Torn mode data padding) ∧
    (decrypted = .error .cryptoLibrary ↔
      refused = none ∧ product.Spoilt ciphers mode key iv data padding) ∧
    ((∃ plain, decrypted = .ok plain ∧
        if mode = .ctr ∨ padding = false then plain.length = data.length
        else plain.length < data.length ∧ data.length ≤ plain.length + product.blockSize) ↔
      refused = none ∧ ¬ product.Spoilt ciphers mode key iv data padding) ∧
    (mode = .ecb → ∀ other : Option Bytes,
      product.encrypt ciphers mode key other data padding = encrypted ∧
        product.decrypt ciphers mode key other data padding = decrypted) ∧
    (refused = none → ∀ direction : Direction,
      let cipher := product.underKey ciphers key
      let first := direction.update cipher mode (used mode iv) data padding
      let second := direction.finish cipher mode (used mode iv) data padding
      answered (second.map (first ++ ·)) =
          (match direction with
            | .encrypt => encrypted
            | .decrypt => decrypted) ∧
        Fits (data.length + product.granule mode) (product.granule mode) first second) := by
  refine ⟨fun fault => ?_, fun fault => ?_, encrypt_fails_iff lawful, encrypt_succeeds_iff lawful,
    decrypt_fails_iff lawful, decrypt_succeeds_iff lawful, ?_, fun taken direction => ?_⟩
  · rw [encrypt_eq_run, judged_eq_refused]
  · rw [decrypt_eq_run, judged_eq_refused]
  · rintro rfl other
    exact ⟨rfl, rfl⟩
  · obtain ⟨cipher, size, small, vector⟩ := underKey_of_takes lawful (refusal_eq_none.mp taken)
    refine ⟨?_, fits_of_lawful cipher size vector direction data padding⟩
    rw [direction.finish_eq cipher vector small padding, encrypt_eq (keyed_of_lawful lawful),
      decrypt_eq (keyed_of_lawful lawful), taken]
    cases direction <;> rfl

-- A stream keeps its length, a fault of the mode comes before one of the vector, and a torn text is
-- not decrypted.
theorem acceptance_three :
    let key : Bytes := List.replicate 16 7
    (∃ text, aes.encrypt .standard .ctr key (some key) [1, 2, 3] true = .ok text ∧
      text.length = 3) ∧
    tripleDes.encrypt .standard .ctr key none [1, 2, 3] false =
      .error (.invalidParameter (.modeNotSupported .tripleDes .ctr)) ∧
    aes.decrypt .standard .cbc key (some key) [1, 2, 3] true = .error .cryptoLibrary := by
  intro key
  have table := acceptance CipherSuite.standard_lawful
  obtain ⟨-, -, -, streams, -⟩ := table aes .ctr key (some key) [1, 2, 3] true
  obtain ⟨refuses, -⟩ := table tripleDes .ctr key none [1, 2, 3] false
  obtain ⟨-, -, -, -, fails, -⟩ := table aes .cbc key (some key) [1, 2, 3] true
  refine ⟨by simpa using streams.mpr ⟨rfl, fun torn => torn.1 rfl⟩, (refuses _).mpr rfl,
    fails.mpr ⟨rfl, nofun, .inl (by decide)⟩⟩

end Product.Cipher

end CryptoProvider
