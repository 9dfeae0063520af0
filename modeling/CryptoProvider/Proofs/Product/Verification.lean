import CryptoProvider.Product.Mac
import CryptoProvider.Proofs.Bytes.Chunks
import CryptoProvider.Proofs.Bytes.Numbers
import CryptoProvider.Proofs.Cipher.Inverse
import CryptoProvider.Proofs.Product.Streaming

/-!
Verification accepts the computed tag and no other.

A tag is a function of the product, the key and the data, once it is known whether the product's
digest can be used and how the library takes the call (`Mac.tag`), and it is as long as the product
says. So verification may cut it out of its buffer and compare it with the candidate.
-/

set_option autoImplicit false

namespace CryptoProvider

variable {ω : Type}

namespace Mac

/-! ### The length of a tag -/

variable {c : BlockCipher} {subkey previous block : Bytes}

theorem length_doubleBlock (block : Bytes) : (doubleBlock block).length = block.length := by
  simp only [doubleBlock]
  split <;> exact Bytes.length_bigEndian ..

theorem length_lastBlock (mask : subkey.length = c.blockSize)
    (fits : block.length ≤ c.blockSize) :
    (lastBlock c.blockSize subkey block).length = c.blockSize := by
  unfold lastBlock
  split
  case isTrue whole => exact Bytes.length_xor_of_eq whole mask
  case isFalse short =>
    refine Bytes.length_xor_of_eq ?_ ((length_doubleBlock subkey).trans mask)
    simp only [List.length_append, List.length_cons, List.length_replicate]
    omega

theorem length_encrypt_xor (lawful : c.Lawful) (first : previous.length = c.blockSize)
    (second : block.length = c.blockSize) :
    (c.encrypt (Bytes.xor previous block)).length = c.blockSize :=
  lawful.length_encrypt _ (Bytes.length_xor_of_eq first second)

theorem length_chainBlocks (lawful : c.Lawful) (mask : subkey.length = c.blockSize)
    (blocks : List Bytes) (start : previous.length = c.blockSize)
    (whole : ∀ block ∈ blocks.dropLast, block.length = c.blockSize)
    (fits : ∀ block ∈ blocks, block.length ≤ c.blockSize) :
    (chainBlocks c subkey previous blocks).length = c.blockSize := by
  have last : ∀ {block : Bytes}, block.length ≤ c.blockSize →
      (lastBlock c.blockSize subkey block).length = c.blockSize :=
    length_lastBlock mask
  induction blocks generalizing previous with
  | nil => exact length_encrypt_xor lawful start (last (Nat.zero_le _))
  | cons block rest ih =>
    cases rest with
    | nil => exact length_encrypt_xor lawful start (last (fits block List.mem_cons_self))
    | cons next rest =>
      rw [List.dropLast_cons_of_ne_nil (List.cons_ne_nil next rest), List.forall_mem_cons] at whole
      exact ih (length_encrypt_xor lawful start whole.1) whole.2
        fun piece mine => fits piece (List.mem_cons_of_mem _ mine)

theorem length_cmac (lawful : c.Lawful) (data : Bytes) : (cmac c data).length = c.blockSize := by
  have zeros : (List.replicate c.blockSize (0 : UInt8)).length = c.blockSize :=
    List.length_replicate
  have mask := (length_doubleBlock _).trans (lawful.length_encrypt _ zeros)
  have ⟨whole, fits⟩ := Bytes.lengths_chunks lawful.blockSize_pos data
  exact length_chainBlocks lawful mask _ zeros whole fits

end Mac

namespace Product

theorem CmacFamily.cipher_lawful {ciphers : CipherSuite} (lawful : ciphers.Lawful)
    {family : CmacFamily} {key : Bytes} {c : BlockCipher} (chosen : family.cipher ciphers key = .ok c) :
    c.Lawful ∧ c.blockSize = family.size := by
  unfold CmacFamily.cipher at chosen
  split at chosen <;> cases chosen
  case h_1 length => exact lawful.aes key (by simp [length])
  case h_2 length => exact lawful.aes key (by simp [length])
  case h_3 length => exact lawful.aes key (by simp [length])
  case h_4 length => exact lawful.des key length
  case h_5 length => exact lawful.tripleDes _ (by simp [length])
  case h_6 length => exact lawful.tripleDes key length

namespace Mac

variable {ciphers : CipherSuite}

/-- Whether the digest of a product can be used. -/
def available (product : Mac) (s : Process ω) : Bool :=
  match product with
  | hmac _ source => source.available s
  | cmac _ => true

/-- The tag of data under a key. -/
def tag (product : Mac) (ciphers : CipherSuite) (response : Response) (available : Bool)
    (key data : Bytes) : Except Error Bytes :=
  match product with
  | hmac _ source =>
    if key.isEmpty then .error (.invalidParameter .emptyHmacKey)
    else response.outcome available (CryptoProvider.Mac.hmac source.digest key data)
  | cmac family =>
    (family.cipher ciphers key).bind fun c =>
      response.outcome true (CryptoProvider.Mac.cmac c data)

theorem length_tag (lawful : ciphers.Lawful) (product : Mac) (response : Response)
    (available : Bool) (key data result : Bytes)
    (signed : product.tag ciphers response available key data = .ok result) :
    result.length = product.size := by
  cases product with
  | hmac kind source =>
    simp only [tag] at signed
    split at signed
    · cases signed
    · exact response.length_outcome (CryptoProvider.Mac.length_hmac ..) available result signed
  | cmac family =>
    cases chosen : family.cipher ciphers key with
    | error cause => simp [tag, chosen, Except.bind] at signed
    | ok c =>
      obtain ⟨block, size⟩ := CmacFamily.cipher_lawful lawful chosen
      have whole := (CryptoProvider.Mac.length_cmac block data).trans size
      simp only [tag, chosen, Except.bind] at signed
      exact response.length_outcome whole true result signed

theorem sign_eq (product : Mac) (ciphers : CipherSuite) (response : Response)
    (key data buffer : Bytes) (s : Process ω) :
    product.sign ciphers response key data (some buffer) s =
      (.deliver (product.tag ciphers response (product.available s) key data) buffer, s) := by
  cases product with
  | hmac kind source =>
    by_cases empty : key.isEmpty
    · simp only [sign, tag, empty, if_true]
      rfl
    · simp only [sign, tag, empty, Bool.false_eq_true, if_false]
      exact source.during_eq _ s
  | cmac family =>
    simp only [sign, tag]
    cases family.cipher ciphers key <;> rfl

theorem signBytes_eq (lawful : ciphers.Lawful) (product : Mac) (response : Response)
    (key data : Bytes) (s : Process ω) :
    product.signBytes ciphers response key data s =
      (product.tag ciphers response (product.available s) key data, s) := by
  have signed := product.sign_eq ciphers response key data (List.replicate product.size 0) s
  have read := Written.toBytes_deliver
    (length_tag lawful product response (product.available s) key data)
  exact (bind_of_idle signed).trans (congrArg (·, s) read)

/-! ### No step is taken that must not be -/

/-- A tag as long as its buffer is judged by comparison. -/
theorem judge?_deliver {outcome : Except Error Bytes} {size : Nat}
    (fits : ∀ result, outcome = .ok result → result.length = size) (candidate : Bytes) :
    judge? (.deliver outcome (List.replicate size 0)) candidate =
      some (outcome.map (candidate == ·)) := by
  cases outcome with
  | error cause => rfl
  | ok result =>
    obtain rfl := fits result rfl
    have sliced : slice? result.length result = some result := by
      rw [slice?, if_pos (Nat.le_refl _), List.take_length]
    rw [Written.deliver, Written.copy_whole rfl]
    by_cases same : candidate.length = result.length
    · have compared : compare? result candidate = some (candidate == result) := by
        rw [compare?, if_pos same.symm, Bool.beq_comm]
      simp only [judge?, same, if_true, Option.getD_some, sliced, Option.bind_some, compared]
      rfl
    · have other : (candidate == result) = false :=
        beq_eq_false_iff_ne.mpr fun equal => same (congrArg List.length equal)
      simp only [judge?, same, if_false, Except.map, other]

theorem verify?_eq (lawful : ciphers.Lawful) (product : Mac) (response : Response)
    (key data tag : Bytes) (s : Process ω) :
    product.verify? ciphers response key data tag s =
      (some ((product.tag ciphers response (product.available s) key data).map (tag == ·)), s) := by
  have signed := product.sign_eq ciphers response key data (List.replicate product.size 0) s
  have judged := judge?_deliver
    (length_tag lawful product response (product.available s) key data) tag
  exact (bind_of_idle signed).trans (congrArg (·, s) judged)

theorem verify_eq (lawful : ciphers.Lawful) (product : Mac) (response : Response)
    (key data tag : Bytes) (s : Process ω) :
    product.verify ciphers response key data tag s =
      ((product.tag ciphers response (product.available s) key data).map (tag == ·), s) :=
  bind_of_idle (verify?_eq lawful product response key data tag s)

/-- Verification accepts the tag that signing gives and no other, of whatever length; it fails
exactly where signing fails, in the same way; and none of its steps is out of bounds. A tag has the
length that the product says. -/
theorem verify_iff_signBytes (lawful : ciphers.Lawful) (product : Mac) (response : Response)
    (key data tag : Bytes) (s : Process ω) :
    ∃ signed, product.signBytes ciphers response key data s = (signed, s) ∧
      (∀ bytes, signed = .ok bytes → bytes.length = product.size) ∧
      ∃ verdict, product.verify ciphers response key data tag s = (verdict, s) ∧
        product.verify? ciphers response key data tag s = (some verdict, s) ∧
        (verdict = .ok true ↔ signed = .ok tag) ∧
        (verdict = .ok false ↔ ∃ bytes, signed = .ok bytes ∧ bytes ≠ tag) ∧
        ∀ cause, verdict = .error cause ↔ signed = .error cause := by
  refine ⟨_, signBytes_eq lawful product response key data s,
    length_tag lawful product response _ key data, _,
    verify_eq lawful product response key data tag s,
    verify?_eq lawful product response key data tag s, ?_⟩
  cases product.tag ciphers response (product.available s) key data with
  | error failure => simp [Except.map]
  | ok bytes =>
    by_cases same : tag = bytes
    · simp [Except.map, same]
    · have other : bytes ≠ tag := Ne.symm same
      simp [Except.map, same, other]

-- The empty tag is refused, as there is a tag and it is longer.
theorem verify_empty_tag :
    CipherSuite.standard.Lawful ∧
      ((hmac .hmacSha256 (.builtin .sha256)).verify .standard .served [1] [2] []
        (Process.launch () [])).1 = .ok false := by
  refine ⟨CipherSuite.standard_lawful, ?_⟩
  obtain ⟨signed, signs, sizes, verdict, verifies, -, -, refuses, -⟩ :=
    verify_iff_signBytes CipherSuite.standard_lawful (hmac .hmacSha256 (.builtin .sha256)) .served
      [1] [2] [] (Process.launch () [])
  rw [verifies]
  refine refuses.mpr ⟨_, (congrArg Prod.fst signs).symm.trans
    (congrArg Prod.fst (signBytes_eq CipherSuite.standard_lawful _ _ _ _ _)), ?_⟩
  exact List.ne_nil_of_length_pos (by rw [CryptoProvider.Mac.length_hmac]; decide)

end Mac

end Product

end CryptoProvider
