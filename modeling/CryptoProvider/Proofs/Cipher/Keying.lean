import CryptoProvider.Proofs.Cipher.Acceptance
import CryptoProvider.Proofs.Product.Verification

/-!
How triple DES is keyed. A key of two parts is the key of three that repeats its first part, and one
part repeated is single DES under it, for encryption, decryption and tags alike.

Triple DES under one part does to a block what single DES does, since the second cipher undoes the
first. All that modes and tags ever do to a cipher is ask it for blocks, so ciphers that do the same
to blocks (`Alike`) cannot be told apart by them.
-/

set_option autoImplicit false

namespace CryptoProvider

open Bytes

/-- Two ciphers on blocks of one size, which do the same to every block. -/
structure BlockCipher.Alike (c d : BlockCipher) : Prop where
  blockSize : d.blockSize = c.blockSize
  encrypt : ∀ block, block.length = c.blockSize → d.encrypt block = c.encrypt block
  decrypt : ∀ block, block.length = c.blockSize → d.decrypt block = c.decrypt block

theorem BlockCipher.Alike.lawful {c d : BlockCipher} (alike : c.Alike d) (lawful : c.Lawful) :
    d.Lawful := by
  have same := alike.blockSize
  constructor
  case blockSize_pos => exact same ▸ lawful.blockSize_pos
  case length_encrypt =>
    intro block whole
    rw [same] at whole ⊢
    rw [alike.encrypt block whole, lawful.length_encrypt block whole]
  case length_decrypt =>
    intro block whole
    rw [same] at whole ⊢
    rw [alike.decrypt block whole, lawful.length_decrypt block whole]
  case decrypt_encrypt =>
    intro block whole
    rw [same] at whole
    rw [alike.encrypt block whole, alike.decrypt _ (lawful.length_encrypt block whole),
      lawful.decrypt_encrypt block whole]

/-- What is assumed of the ciphers: single DES decrypts what it encrypts, and triple DES encrypts,
decrypts and encrypts by single DES under the three parts of its key. -/
structure CipherSuite.Composed (ciphers : CipherSuite) : Prop where
  des : ∀ key, key.length = 8 → (ciphers.des key).Lawful ∧ (ciphers.des key).blockSize = 8
  tripleDes : ∀ first second third : Bytes,
    first.length = 8 → second.length = 8 → third.length = 8 →
      (Cipher.encryptDecryptEncrypt (ciphers.des first) (ciphers.des second)
        (ciphers.des third)).Alike (ciphers.tripleDes (first ++ second ++ third))

theorem CipherSuite.standard_composed : CipherSuite.standard.Composed where
  des key _ := ⟨Cipher.des_lawful key, rfl⟩
  tripleDes first second third one two three := by
    have gone : first.drop 16 = [] := List.drop_of_length_le (by omega)
    have composed : standard.tripleDes (first ++ second ++ third) =
        Cipher.encryptDecryptEncrypt (standard.des first) (standard.des second)
          (standard.des third) := by
      simp [standard, Cipher.tripleDes, List.drop_append, one, two, gone]
    rw [composed]
    exact ⟨rfl, fun _ _ => rfl, fun _ _ => rfl⟩

namespace Cipher

variable {c d : BlockCipher} {mode : CipherMode} {iv data previous : Bytes} {blocks : List Bytes}

/-- The second cipher undoes the first, or the first the second. -/
theorem alike_encryptDecryptEncrypt (lawful : c.Lawful) :
    c.Alike (encryptDecryptEncrypt c c c) where
  blockSize := rfl
  encrypt block whole := by simp [encryptDecryptEncrypt, lawful.decrypt_encrypt block whole]
  decrypt block whole := by
    have decrypted := lawful.length_decrypt block whole
    simp [encryptDecryptEncrypt, lawful.decrypt_encrypt _ decrypted]

/-! What modes make of ciphers that do the same to blocks. -/

section Modes

variable (alike : c.Alike d)

include alike

theorem counterStream_congr (counter : Nat) (blocks : List Bytes) :
    counterStream d counter blocks = counterStream c counter blocks := by
  induction blocks generalizing counter with
  | nil => rfl
  | cons block rest ih =>
    have mask := alike.encrypt (bigEndian c.blockSize counter) (length_bigEndian _ _)
    rw [counterStream, counterStream, alike.blockSize, mask, ih]

theorem chainDecrypt_congr (whole : ∀ block ∈ blocks, block.length = c.blockSize) :
    chainDecrypt d previous blocks = chainDecrypt c previous blocks := by
  induction blocks generalizing previous with
  | nil => rfl
  | cons block rest ih =>
    rw [List.forall_mem_cons] at whole
    rw [chainDecrypt, chainDecrypt, alike.decrypt block whole.1, ih whole.2]

variable (lawful : c.Lawful)

include lawful

-- What is encrypted next is mixed with what was encrypted before, which is a block again.
theorem chainEncrypt_congr (whole : ∀ block ∈ blocks, block.length = c.blockSize)
    (start : previous.length = c.blockSize) :
    chainEncrypt d previous blocks = chainEncrypt c previous blocks := by
  induction blocks generalizing previous with
  | nil => rfl
  | cons block rest ih =>
    rw [List.forall_mem_cons] at whole
    have mixed : (xor block previous).length = c.blockSize := length_xor_of_eq whole.1 start
    have encrypted := alike.encrypt _ mixed
    simp only [chainEncrypt, encrypted, ih whole.2 (lawful.length_encrypt _ mixed)]

theorem transform_congr (vector : mode ≠ .ecb → iv.length = c.blockSize)
    (whole : mode ≠ .ctr → data.length % c.blockSize = 0) :
    transform d mode iv data = transform c mode iv data := by
  have blocks (block : mode ≠ .ctr) : ∀ piece ∈ chunks c.blockSize data,
      piece.length = c.blockSize :=
    length_of_mem_chunks lawful.blockSize_pos data (whole block)
  simp only [transform, alike.blockSize]
  cases mode with
  | ecb =>
    have whole := blocks (by decide)
    exact List.flatMap_congr fun piece mine => alike.encrypt piece (whole piece mine)
  | cbc => exact chainEncrypt_congr alike lawful (blocks (by decide)) (vector (by decide))
  | ctr => exact counterStream_congr alike _ _

theorem inverseTransform_congr (whole : mode ≠ .ctr → data.length % c.blockSize = 0) :
    inverseTransform d mode iv data = inverseTransform c mode iv data := by
  have blocks (block : mode ≠ .ctr) : ∀ piece ∈ chunks c.blockSize data,
      piece.length = c.blockSize :=
    length_of_mem_chunks lawful.blockSize_pos data (whole block)
  simp only [inverseTransform, alike.blockSize]
  cases mode with
  | ecb =>
    have whole := blocks (by decide)
    exact List.flatMap_congr fun piece mine => alike.decrypt piece (whole piece mine)
  | cbc => exact chainDecrypt_congr alike (blocks (by decide))
  | ctr => exact counterStream_congr alike _ _

theorem encrypt?_congr (vector : mode ≠ .ecb → iv.length = c.blockSize) (padding : Bool) :
    encrypt? d mode iv data padding = encrypt? c mode iv data padding := by
  have padded := length_pad lawful.blockSize_pos data
  by_cases stream : mode = .ctr
  · have streamed : transform d .ctr iv data = transform c .ctr iv data :=
      transform_congr alike lawful (stream ▸ vector) nofun
    simp [encrypt?, stream, streamed]
  · cases padding with
    | true => simp [encrypt?, stream, alike.blockSize,
        transform_congr alike lawful vector fun _ => padded]
    | false =>
      by_cases whole : data.length % c.blockSize = 0
      · simp [encrypt?, alike.blockSize, transform_congr alike lawful vector fun _ => whole]
      · simp [encrypt?, stream, alike.blockSize, whole]

theorem decrypt?_congr (padding : Bool) :
    decrypt? d mode iv data padding = decrypt? c mode iv data padding := by
  by_cases whole : mode ≠ .ctr → data.length % c.blockSize = 0
  · simp only [decrypt?, alike.blockSize, inverseTransform_congr alike lawful whole]
  · obtain ⟨block, torn⟩ := Classical.not_imp.mp whole
    simp [decrypt?, block, alike.blockSize, torn]

end Modes

end Cipher

namespace Mac

variable {c d : BlockCipher} {subkey previous : Bytes}

theorem chainBlocks_congr (alike : c.Alike d) (lawful : c.Lawful)
    (mask : subkey.length = c.blockSize) (blocks : List Bytes)
    (start : previous.length = c.blockSize)
    (whole : ∀ block ∈ blocks.dropLast, block.length = c.blockSize)
    (fits : ∀ block ∈ blocks, block.length ≤ c.blockSize) :
    chainBlocks d subkey previous blocks = chainBlocks c subkey previous blocks := by
  have last {previous block : Bytes} (start : previous.length = c.blockSize)
      (fits : block.length ≤ c.blockSize) :
      d.encrypt (xor previous (lastBlock d.blockSize subkey block)) =
        c.encrypt (xor previous (lastBlock c.blockSize subkey block)) := by
    rw [alike.blockSize]
    exact alike.encrypt _ (length_xor_of_eq start (length_lastBlock mask fits))
  induction blocks generalizing previous with
  | nil => exact last start (Nat.zero_le _)
  | cons block rest ih =>
    cases rest with
    | nil => exact last start (fits block List.mem_cons_self)
    | cons next rest =>
      rw [List.dropLast_cons_of_ne_nil (List.cons_ne_nil next rest), List.forall_mem_cons] at whole
      have mixed : (xor previous block).length = c.blockSize := length_xor_of_eq start whole.1
      change chainBlocks d subkey (d.encrypt (xor previous block)) (next :: rest) =
        chainBlocks c subkey (c.encrypt (xor previous block)) (next :: rest)
      rw [alike.encrypt _ mixed]
      exact ih (lawful.length_encrypt _ mixed) whole.2
        fun piece mine => fits piece (List.mem_cons_of_mem _ mine)

/-- Ciphers that do the same to blocks give the same tags. -/
theorem cmac_congr (alike : c.Alike d) (lawful : c.Lawful) (data : Bytes) :
    cmac d data = cmac c data := by
  have zeros : (List.replicate c.blockSize (0 : UInt8)).length = c.blockSize :=
    List.length_replicate
  have mask := (length_doubleBlock _).trans (lawful.length_encrypt _ zeros)
  have ⟨whole, fits⟩ := lengths_chunks lawful.blockSize_pos data
  simp only [cmac, alike.blockSize, alike.encrypt _ zeros]
  exact chainBlocks_congr alike lawful mask _ zeros whole fits

end Mac

namespace CipherSuite.Composed

variable {ciphers : CipherSuite} (composed : ciphers.Composed) {part : Bytes}

include composed

/-- One part three times over keys triple DES as the part itself keys single DES. -/
theorem tripled (size : part.length = 8) :
    (ciphers.des part).Alike (ciphers.tripleDes (part ++ part ++ part)) := by
  have once := Cipher.alike_encryptDecryptEncrypt (composed.des part size).1
  have thrice := composed.tripleDes part part part size size size
  exact
    { blockSize := thrice.blockSize
      encrypt := fun block whole => (thrice.encrypt block whole).trans (once.encrypt block whole)
      decrypt := fun block whole => (thrice.decrypt block whole).trans (once.decrypt block whole) }

end CipherSuite.Composed

namespace Product

/-! What products make of their keys. -/

namespace Cipher

/-- Two products, each under a key of its own, answer the same in a mode, be it data or an error. -/
def SameAnswers (ciphers : CipherSuite) (mode : CipherMode) (first : Cipher) (key : Bytes)
    (second : Cipher) (other : Bytes) : Prop :=
  ∀ iv data padding,
    first.encrypt ciphers mode key iv data padding =
      second.encrypt ciphers mode other iv data padding ∧
    first.decrypt ciphers mode key iv data padding =
      second.decrypt ciphers mode other iv data padding

variable {ciphers : CipherSuite} {mode : CipherMode} {key other : Bytes} {first second : Cipher}

theorem SameAnswers.of_underKey {product : Cipher}
    (refused : ∀ iv, product.refusal mode key iv = product.refusal mode other iv)
    (same : product.underKey ciphers key = product.underKey ciphers other) :
    SameAnswers ciphers mode product key product other := by
  intro iv data padding
  rw [encrypt_eq_run, decrypt_eq_run, encrypt_eq_run, decrypt_eq_run, refused, same]
  exact ⟨rfl, rfl⟩

theorem SameAnswers.of_alike (block : mode ≠ .ctr)
    (known : key.length ∈ first.keySizes) (known' : other.length ∈ second.keySizes)
    (sizes : first.blockSize = second.blockSize)
    (lawful : (second.underKey ciphers other).Lawful)
    (size : (second.underKey ciphers other).blockSize = second.blockSize)
    (alike : (second.underKey ciphers other).Alike (first.underKey ciphers key)) :
    SameAnswers ciphers mode first key second other := by
  intro iv data padding
  have refused : first.refusal mode key iv = second.refusal mode other iv := by
    simp [refusal, known, known', block, sizes]
  have keyed := alike.lawful lawful
  have width := alike.blockSize.trans (size.trans sizes.symm)
  rw [encrypt_eq fun _ => ⟨keyed, width⟩, decrypt_eq fun _ => ⟨keyed, width⟩,
    encrypt_eq fun _ => ⟨lawful, size⟩, decrypt_eq fun _ => ⟨lawful, size⟩, refused]
  cases taken : second.refusal mode other iv with
  | some fault => exact ⟨rfl, rfl⟩
  | none =>
    have vector (chained : mode ≠ .ecb) :
        (used mode iv).length = (second.underKey ciphers other).blockSize :=
      (length_used (refusal_eq_none.mp taken) chained).trans size.symm
    exact ⟨congrArg _ (CryptoProvider.Cipher.encrypt?_congr alike lawful vector padding),
      congrArg _ (CryptoProvider.Cipher.decrypt?_congr alike lawful padding)⟩

/-- A key of two parts is as good as the three that it is expanded to. -/
theorem sameAnswers_expanded (size : key.length = 16) (mode : CipherMode) :
    SameAnswers ciphers mode tripleDes key tripleDes (key ++ key.take 8) := by
  have known : key.length ∈ tripleDes.keySizes := by simp [keySizes, size]
  have known' : (key ++ key.take 8).length ∈ tripleDes.keySizes := by simp [keySizes, size]
  refine .of_underKey (fun iv => by simp only [refusal, known, known', not_true, if_false]) ?_
  simp [underKey, expandKey, size]

theorem sameAnswers_repeated (composed : ciphers.Composed) {part repeated : Bytes}
    (size : part.length = 8) (repeats : repeated ∈ [part ++ part, part ++ part ++ part])
    (block : mode ≠ .ctr) : SameAnswers ciphers mode tripleDes repeated des part := by
  have ⟨lawful, width⟩ := composed.des part size
  have thrice : expandKey repeated = part ++ part ++ part := by
    rcases List.mem_pair.mp repeats with rfl | rfl <;> simp [expandKey, size]
  have known : repeated.length ∈ tripleDes.keySizes := by
    rcases List.mem_pair.mp repeats with rfl | rfl <;> simp [keySizes, size]
  refine .of_alike block known (by simp [keySizes, size]) rfl lawful width ?_
  rw [underKey, underKey, thrice]
  exact composed.tripled size

end Cipher

namespace Mac

/-- A product gives the same tags under two keys, wherever they are written, and accepts the
same. -/
def SameTags (ω : Type) (ciphers : CipherSuite) (product : Mac) (key other : Bytes) : Prop :=
  ∀ (s : Process ω) response data,
    (∀ output, product.sign ciphers response key data output s =
      product.sign ciphers response other data output s) ∧
    product.signBytes ciphers response key data s =
      product.signBytes ciphers response other data s ∧
    ∀ tag, product.verify ciphers response key data tag s =
      product.verify ciphers response other data tag s

variable {ω : Type} {ciphers : CipherSuite} {product : Mac} {key other : Bytes}

theorem SameTags.of_tag (same : ∀ response available data,
    product.tag ciphers response available key data =
      product.tag ciphers response available other data) :
    SameTags ω ciphers product key other := by
  intro s response data
  have signed (output : Option Bytes) : product.sign ciphers response key data output s =
      product.sign ciphers response other data output s := by
    cases output with
    | none => rfl
    | some buffer => rw [sign_eq, sign_eq, same]
  have bytes : product.signBytes ciphers response key data s =
      product.signBytes ciphers response other data s := by
    simp only [signBytes, bind_apply, signed]
  refine ⟨signed, bytes, fun tag => ?_⟩
  simp only [verify, verify?, bind_apply, signed]

theorem sameTags_expanded (size : key.length = 16) :
    SameTags ω ciphers (cmac .des) key (key ++ key.take 8) := by
  refine .of_tag fun _ _ data => ?_
  simp [tag, CmacFamily.cipher, size]

theorem sameTags_repeated (composed : ciphers.Composed) {part repeated : Bytes}
    (size : part.length = 8) (repeats : repeated ∈ [part ++ part, part ++ part ++ part]) :
    SameTags ω ciphers (cmac .des) repeated part := by
  have same := CryptoProvider.Mac.cmac_congr (composed.tripled size) (composed.des part size).1
  have thrice : CmacFamily.des.cipher ciphers repeated =
      .ok (ciphers.tripleDes (part ++ part ++ part)) := by
    rcases List.mem_pair.mp repeats with rfl | rfl <;> simp [CmacFamily.cipher, size]
  have once : CmacFamily.des.cipher ciphers part = .ok (ciphers.des part) := by
    simp [CmacFamily.cipher, size]
  refine .of_tag fun _ _ data => ?_
  simp only [tag, thrice, once, Except.bind, same]

end Mac

/-- Under a key of two parts triple DES does what it does under the key that repeats the first part,
and under one part repeated it does what single DES does under that part: in each mode of blocks,
whatever the vector, the padding and the data, it encrypts and decrypts to the same or fails in the
same way, and the tags are the same. -/
theorem keying_coherent {ciphers : CipherSuite} (composed : ciphers.Composed) (ω : Type) :
    (∀ key : Bytes, key.length = 16 →
      (∀ mode, Cipher.SameAnswers ciphers mode .tripleDes key .tripleDes (key ++ key.take 8)) ∧
      Mac.SameTags ω ciphers (.cmac .des) key (key ++ key.take 8)) ∧
    ∀ part : Bytes, part.length = 8 → ∀ repeated ∈ [part ++ part, part ++ part ++ part],
      (∀ mode, mode ≠ .ctr → Cipher.SameAnswers ciphers mode .tripleDes repeated .des part) ∧
      Mac.SameTags ω ciphers (.cmac .des) repeated part := by
  constructor
  · intro key size
    exact ⟨Cipher.sameAnswers_expanded size, Mac.sameTags_expanded size⟩
  · intro part size repeated repeats
    exact ⟨fun _ => Cipher.sameAnswers_repeated composed size repeats,
      Mac.sameTags_repeated composed size repeats⟩

-- A key of two parts, and one part repeated, for a mode that chains.
theorem keying_coherent_chained :
    let part : Bytes := [0x13, 0x34, 0x57, 0x79, 0x9b, 0xbc, 0xdf, 0xf1]
    let other : Bytes := [0x0e, 0x32, 0x92, 0x32, 0xea, 0x6d, 0x0d, 0x73]
    CipherSuite.standard.Composed ∧
      Cipher.SameAnswers .standard .cbc .tripleDes (part ++ other) .tripleDes
        (part ++ other ++ part) ∧
      Cipher.SameAnswers .standard .cbc .tripleDes (part ++ part) .des part ∧
      Mac.SameTags Unit .standard (.cmac .des) (part ++ part ++ part) part := by
  intro part other
  have coherent := keying_coherent CipherSuite.standard_composed Unit
  exact ⟨CipherSuite.standard_composed, (coherent.1 (part ++ other) rfl).1 .cbc,
    (coherent.2 part rfl (part ++ part) (by simp)).1 .cbc nofun,
    (coherent.2 part rfl (part ++ part ++ part) (by simp)).2⟩

end Product

end CryptoProvider
