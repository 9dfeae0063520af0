import CryptoProvider.Cipher.Suite
import CryptoProvider.Product.Cipher
import CryptoProvider.Proofs.Cipher.Aes
import CryptoProvider.Proofs.Cipher.Buffering
import CryptoProvider.Proofs.Cipher.Des

/-!
Encryption and decryption by a product are inverse to each other, whatever the mode, the key, the
initialization vector and the data: what comes out of one goes back through the other. Of the
ciphers it is assumed only that they decrypt each block to what was encrypted.
-/

set_option autoImplicit false

namespace CryptoProvider

/-- Ciphers on blocks of the sizes of their families, under all keys of the right lengths, that
decrypt each block to what was encrypted. -/
structure CipherSuite.Lawful (ciphers : CipherSuite) : Prop where
  aes : ∀ key, key.length ∈ [16, 24, 32] →
    (ciphers.aes key).Lawful ∧ (ciphers.aes key).blockSize = 16
  des : ∀ key, key.length = 8 → (ciphers.des key).Lawful ∧ (ciphers.des key).blockSize = 8
  tripleDes : ∀ key, key.length = 24 →
    (ciphers.tripleDes key).Lawful ∧ (ciphers.tripleDes key).blockSize = 8

theorem CipherSuite.standard_lawful : CipherSuite.standard.Lawful where
  aes key size := by
    have some : key ≠ [] := by
      intro none
      simp [none] at size
    have words : key.length % 4 = 0 := by
      simp only [List.mem_cons, List.not_mem_nil, or_false] at size
      omega
    exact ⟨Cipher.aes_lawful some words, rfl⟩
  des key _ := ⟨Cipher.des_lawful key, rfl⟩
  tripleDes key _ := ⟨Cipher.tripleDes_lawful key, rfl⟩

namespace Product.Cipher

open CryptoProvider.Cipher (Direction)

variable {product : Cipher} {ciphers : CipherSuite} {mode : CipherMode} {key : Bytes}

/-- A key of two parts becomes one of three. -/
theorem length_expandKey (size : key.length ∈ [16, 24]) : (expandKey key).length = 24 := by
  simp only [List.mem_cons, List.not_mem_nil, or_false] at size
  unfold expandKey
  split
  case isTrue short => simp [short]
  case isFalse long => exact size.resolve_left long

/-- What a product takes: a key of a length that it knows, a mode that it offers, and a vector of
one block if the mode uses one. -/
structure Takes (product : Cipher) (mode : CipherMode) (key : Bytes) (iv : Option Bytes) :
    Prop where
  size : key.length ∈ product.keySizes
  offered : mode = .ctr → product = aes
  block : mode ≠ .ecb → ∃ used, iv = some used ∧ used.length = product.blockSize

theorem choose_eq_ok {cipher : BlockCipher} :
    product.choose ciphers mode key = .ok cipher ↔
      key.length ∈ product.keySizes ∧ (mode = .ctr → product = aes) ∧
        product.underKey ciphers key = cipher := by
  unfold choose
  split
  case isTrue unknown => simp [unknown]
  case isFalse known =>
    split
    case isTrue refused => simp [refused]
    case isFalse offered =>
      have known := Decidable.not_not.mp known
      have streams : mode = .ctr → product = aes := by simpa using offered
      simpa [known] using fun _ => streams

-- The vector that a mode uses, if it is given one.
def used (mode : CipherMode) (iv : Option Bytes) : Bytes :=
  if mode = .ecb then [] else iv.getD []

theorem vector_eq_ok {iv : Option Bytes} {taken : Bytes} :
    product.vector mode iv = .ok taken ↔
      (mode ≠ .ecb → ∃ used, iv = some used ∧ used.length = product.blockSize) ∧
        used mode iv = taken := by
  cases mode with
  | ecb => simp [vector, used]
  | cbc | ctr =>
    cases iv with
    | none => simp [vector]
    | some iv =>
      simp only [vector]
      split
      case isTrue size => simp [size, used]
      case isFalse size => simp [size]

theorem lawful_underKey (lawful : ciphers.Lawful) (size : key.length ∈ product.keySizes) :
    (product.underKey ciphers key).Lawful ∧
      (product.underKey ciphers key).blockSize = product.blockSize := by
  cases product with
  | aes => exact lawful.aes key size
  | des => exact lawful.des key (List.mem_singleton.mp size)
  | tripleDes => exact lawful.tripleDes _ (length_expandKey size)

theorem answered_eq_ok {result : Option Bytes} {bytes : Bytes} :
    answered result = .ok bytes ↔ result = some bytes := by
  cases result <;> simp [answered]

/-- A product that takes what it is given goes on with its cipher and the vector. -/
theorem begun_eq_ok {next : BlockCipher → Bytes → Except Error Bytes} {iv : Option Bytes}
    {bytes : Bytes} :
    (do
      let cipher ← product.choose ciphers mode key
      let iv ← product.vector mode iv
      next cipher iv) = .ok bytes ↔
      product.Takes mode key iv ∧
        next (product.underKey ciphers key) (used mode iv) = .ok bytes := by
  constructor
  · intro done
    cases chosen : product.choose ciphers mode key with
    | error failure => simp [chosen, bind, Except.bind] at done
    | ok cipher =>
      cases taken : product.vector mode iv with
      | error failure => simp [chosen, taken, bind, Except.bind] at done
      | ok vector =>
        rw [chosen, taken] at done
        obtain ⟨size, offered, rfl⟩ := choose_eq_ok.mp chosen
        obtain ⟨block, rfl⟩ := vector_eq_ok.mp taken
        exact ⟨⟨size, offered, block⟩, done⟩
  · intro ⟨takes, done⟩
    have chosen : product.choose ciphers mode key = .ok (product.underKey ciphers key) :=
      choose_eq_ok.mpr ⟨takes.size, takes.offered, rfl⟩
    have taken : product.vector mode iv = .ok (used mode iv) :=
      vector_eq_ok.mpr ⟨takes.block, rfl⟩
    rw [chosen, taken]
    exact done

theorem length_used {iv : Option Bytes} (takes : product.Takes mode key iv)
    (chained : mode ≠ .ecb) : (used mode iv).length = product.blockSize := by
  obtain ⟨vector, rfl, size⟩ := takes.block chained
  simpa [used, chained] using size

/-- A block is not longer than a padding byte can tell. -/
theorem blockSize_small (product : Cipher) : product.blockSize < 256 := by
  cases product <;> decide

section

variable {c : BlockCipher} {iv : Bytes} (lawful : c.Lawful) (size : c.blockSize = product.blockSize)
  (vector : mode ≠ .ecb → iv.length = c.blockSize)

include lawful size vector

theorem fits_of_lawful (direction : Direction) (data : Bytes) (padding : Bool) :
    Fits (data.length + product.granule mode) (product.granule mode)
      (direction.update c mode iv data padding) (direction.finish c mode iv data padding) := by
  have small : c.blockSize < 256 := size ▸ product.blockSize_small
  refine ⟨Nat.add_le_add_right (direction.length_update_le lawful vector padding) _, ?_⟩
  intro last written
  refine Nat.le_trans (direction.length_finish_le lawful vector small written) ?_
  unfold granule
  split
  · exact Nat.zero_le _
  · exact Nat.le_of_eq size

/-- What goes through the buffer is what is encrypted or decrypted in one piece. -/
theorem run_eq (direction : Direction) (data : Bytes) (padding : Bool) :
    product.run direction c mode iv data padding = direction.whole? c mode iv data padding := by
  have fits := fits_of_lawful lawful size vector direction data padding
  have small : c.blockSize < 256 := size ▸ product.blockSize_small
  rw [run, Direction.through_eq, direction.finish_eq lawful vector small padding]
  intro last written
  exact Nat.le_trans (Nat.add_le_add_left (fits.fills last written) _) fits.leaves

end

/-- The cipher and the vector that a product goes on with, once it takes what it is given. -/
theorem underKey_of_takes (lawful : ciphers.Lawful) {iv : Option Bytes}
    (takes : product.Takes mode key iv) :
    let cipher := product.underKey ciphers key
    cipher.Lawful ∧ cipher.blockSize = product.blockSize ∧ cipher.blockSize < 256 ∧
      (mode ≠ .ecb → (used mode iv).length = cipher.blockSize) := by
  obtain ⟨lawful, size⟩ := lawful_underKey lawful takes.size
  have small := size ▸ product.blockSize_small
  exact ⟨lawful, size, small, fun chained => (length_used takes chained).trans size.symm⟩

section

variable (lawful : ciphers.Lawful) {iv : Option Bytes} {data text : Bytes} {padding : Bool}

include lawful

theorem encrypt_eq_ok :
    product.encrypt ciphers mode key iv data padding = .ok text ↔
      product.Takes mode key iv ∧ CryptoProvider.Cipher.encrypt? (product.underKey ciphers key)
        mode (used mode iv) data padding = some text := by
  rw [encrypt, begun_eq_ok]
  refine and_congr_right fun takes => ?_
  obtain ⟨lawful, size, -, vector⟩ := underKey_of_takes lawful takes
  rw [answered_eq_ok, run_eq lawful size vector]
  rfl

theorem decrypt_eq_ok :
    product.decrypt ciphers mode key iv text padding = .ok data ↔
      product.Takes mode key iv ∧ CryptoProvider.Cipher.decrypt? (product.underKey ciphers key)
        mode (used mode iv) text padding = some data := by
  rw [decrypt, begun_eq_ok]
  refine and_congr_right fun takes => ?_
  obtain ⟨lawful, size, -, vector⟩ := underKey_of_takes lawful takes
  rw [answered_eq_ok, run_eq lawful size vector]
  rfl

end

/-- What data are encrypted to is decrypted to them, and the other way round; and data are encrypted
if the product takes the key, the mode and the vector, and the data fill blocks where they have
to. -/
theorem encrypt_iff_decrypt (lawful : ciphers.Lawful) (product : Cipher) (mode : CipherMode)
    (key : Bytes) (iv : Option Bytes) (data text : Bytes) (padding : Bool) :
    (product.encrypt ciphers mode key iv data padding = .ok text ↔
      product.decrypt ciphers mode key iv text padding = .ok data) ∧
    ((∃ encrypted, product.encrypt ciphers mode key iv data padding = .ok encrypted) ↔
      product.Takes mode key iv ∧
        (mode = .ctr ∨ padding = true ∨ data.length % product.blockSize = 0)) := by
  simp only [encrypt_eq_ok lawful, decrypt_eq_ok lawful, exists_and_left]
  constructor
  · apply and_congr_right
    intro takes
    obtain ⟨lawful, -, small, vector⟩ := underKey_of_takes lawful takes
    exact CryptoProvider.Cipher.encrypt?_iff_decrypt? lawful small vector padding
  · apply and_congr_right
    intro takes
    have size := (lawful_underKey lawful takes.size).2
    rw [← size]
    exact CryptoProvider.Cipher.exists_encrypt? ..

-- A block of data, and the text that it is encrypted to.
theorem encrypt_iff_decrypt_block :
    let key : Bytes := [0x13, 0x34, 0x57, 0x79, 0x9b, 0xbc, 0xdf, 0xf1]
    let data : Bytes := [0x01, 0x23, 0x45, 0x67, 0x89, 0xab, 0xcd, 0xef]
    let text : Bytes := [0x85, 0xe8, 0x13, 0x54, 0x0f, 0x0a, 0xb4, 0x05]
    des.encrypt .standard .ecb key none data false = .ok text ∧
      des.decrypt .standard .ecb key none text false = .ok data := by
  intro key data text
  have takes : des.Takes .ecb key none := ⟨by decide, nofun, fun chained => absurd rfl chained⟩
  have blocks : Bytes.chunks 8 data = [data] := by simp [Bytes.chunks, data]
  have crypted : (CryptoProvider.Cipher.des key).encrypt data = text := by decide +kernel
  have whole : CryptoProvider.Cipher.encrypt? (CryptoProvider.Cipher.des key) .ecb [] data false =
      some text := by
    have whole : data.length % 8 = 0 := by decide
    have size : (CryptoProvider.Cipher.des key).blockSize = 8 := rfl
    simp [CryptoProvider.Cipher.encrypt?, CryptoProvider.Cipher.transform, size, whole, blocks,
      crypted]
  have encrypted : des.encrypt .standard .ecb key none data false = .ok text :=
    (encrypt_eq_ok CipherSuite.standard_lawful).mpr ⟨takes, whole⟩
  exact ⟨encrypted, (encrypt_iff_decrypt CipherSuite.standard_lawful des .ecb key none data text
    false).1.mp encrypted⟩

end Product.Cipher

end CryptoProvider
