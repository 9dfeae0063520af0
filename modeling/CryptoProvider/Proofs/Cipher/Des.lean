import CryptoProvider.Cipher.Des
import CryptoProvider.Proofs.Bytes.Numbers
import CryptoProvider.Proofs.Cipher.Modes

/-!
DES decrypts what it encrypts, whatever the key: the permutations at both ends undo each other, and
the rounds are undone by the same rounds with the keys in reverse order, since each mixes something
into one half that the other half alone determines.
-/

set_option autoImplicit false

namespace CryptoProvider.Cipher

open Bytes

namespace Des

/-! Permutations of bits. -/

/-- Whether a bit is set, counted from the lowest. -/
def bit (word : UInt64) (index : Nat) : Bool :=
  word.toNat.testBit index

/-- The bit that ends up at an index, if any does. -/
def origin (places : List UInt64) (width : UInt64) (index : Nat) : Option Nat :=
  places.reverse[index]?.map fun place => (width - place).toNat % 64

theorem ext_bit {first second : UInt64}
    (same : ∀ index, index < 64 → bit first index = bit second index) : first = second := by
  apply UInt64.toNat_inj.mp
  apply Nat.eq_of_testBit_eq
  intro index
  rcases Nat.lt_or_ge index 64 with within | beyond
  · exact same index within
  · have large : 2 ^ 64 ≤ 2 ^ index := Nat.pow_le_pow_right (by decide) beyond
    rw [Nat.testBit_lt_two_pow (Nat.lt_of_lt_of_le first.toNat_lt large),
      Nat.testBit_lt_two_pow (Nat.lt_of_lt_of_le second.toNat_lt large)]

theorem bit_gather_zero (result word shift : UInt64) :
    bit (result <<< 1 ||| (word >>> shift &&& 1)) 0 = bit word (shift.toNat % 64) := by
  simp [bit]

theorem bit_gather_succ (result word shift : UInt64) {index : Nat} (within : index + 1 < 64) :
    bit (result <<< 1 ||| (word >>> shift &&& 1)) (index + 1) = bit result index := by
  have one : (1 : UInt64).toNat = 1 := rfl
  have none : Nat.testBit 1 (index + 1) = false := by simp [Nat.testBit_succ]
  have low : 1 ≤ index + 1 := Nat.le_add_left 1 index
  simp only [bit, UInt64.toNat_or, UInt64.toNat_and, UInt64.toNat_shiftLeft, one, Nat.testBit_or,
    Nat.testBit_and, none, Nat.testBit_mod_two_pow, within, Nat.testBit_shiftLeft, Nat.reduceMod,
    ge_iff_le, low, decide_true, Nat.add_sub_cancel, Bool.true_and, Bool.and_false, Bool.or_false]

theorem permute_concat (places : List UInt64) (place width word : UInt64) :
    permute (places ++ [place]) width word =
      permute places width word <<< 1 ||| (word >>> (width - place) &&& 1) := by
  simp [permute]

/-- Each bit of a permuted word is the bit it comes from, and clear if it comes from none. -/
theorem bit_permute (places : List UInt64) (width word : UInt64) {index : Nat}
    (within : index < 64) :
    bit (permute places width word) index = (origin places width index).any (bit word) := by
  -- Each step puts one bit below those that are there: the induction takes the last place first.
  obtain ⟨backwards, rfl⟩ : ∃ backwards : List UInt64, places = backwards.reverse :=
    ⟨_, places.reverse_reverse.symm⟩
  induction backwards generalizing index with
  | nil => simp [permute, origin, bit]
  | cons place others ih =>
    rw [List.reverse_cons, permute_concat]
    cases index with
    | zero => simp [bit_gather_zero, origin]
    | succ index =>
      rw [bit_gather_succ _ _ _ within, ih (Nat.lt_of_succ_lt within)]
      simp [origin]

theorem permute_permute {outer inner : List UInt64} {width : UInt64}
    (undoes : ∀ index < 64, (origin outer width index).bind (origin inner width) = some index)
    (word : UInt64) : permute outer width (permute inner width word) = word := by
  apply ext_bit
  intro index within
  have undone := undoes index within
  rw [bit_permute outer width _ within]
  cases first : origin outer width index with
  | none => simp [first] at undone
  | some source =>
    have inside : source < 64 := by
      simp only [origin, Option.map_eq_some_iff] at first
      omega
    rw [first, Option.bind_some] at undone
    simp only [Option.any_some, bit_permute inner width word inside, undone]

theorem finalPlaces_initialPlaces (word : UInt64) :
    permute finalPlaces 64 (permute initialPlaces 64 word) = word :=
  permute_permute (by decide) word

theorem initialPlaces_finalPlaces (word : UInt64) :
    permute initialPlaces 64 (permute finalPlaces 64 word) = word :=
  permute_permute (by decide) word

/-- As many places, as many bits. -/
theorem permute_lt (places : List UInt64) (width word : UInt64) :
    (permute places width word).toNat < 2 ^ places.length := by
  apply Nat.lt_pow_two_of_testBit
  intro index beyond
  rcases Nat.lt_or_ge index 64 with within | large
  · have none : origin places width index = none := by simp [origin, beyond]
    have clear := bit_permute places width word within
    rw [none] at clear
    exact clear
  · have more : 2 ^ 64 ≤ 2 ^ index := Nat.pow_le_pow_right (by decide) large
    exact Nat.testBit_lt_two_pow (Nat.lt_of_lt_of_le (UInt64.toNat_lt _) more)

/-! The halves of a block. -/

/-- Both halves have no more than their 32 bits. -/
structure Halved (halves : UInt64 × UInt64) : Prop where
  left : halves.1.toNat < 2 ^ 32
  right : halves.2.toNat < 2 ^ 32

def split (word : UInt64) : UInt64 × UInt64 :=
  (word >>> 32, word &&& 0xffffffff)

def join (halves : UInt64 × UInt64) : UInt64 :=
  halves.1 <<< 32 ||| halves.2

theorem toNat_split_left (word : UInt64) : (split word).1.toNat = word.toNat / 2 ^ 32 := by
  simp [split, UInt64.toNat_shiftRight, Nat.shiftRight_eq_div_pow]

theorem toNat_split_right (word : UInt64) : (split word).2.toNat = word.toNat % 2 ^ 32 := by
  rw [← Nat.and_two_pow_sub_one_eq_mod]
  rfl

theorem toNat_join {halves : UInt64 × UInt64} (halved : Halved halves) :
    (join halves).toNat = halves.1.toNat * 2 ^ 32 + halves.2.toNat := by
  have left := halved.left
  have amount : (32 : UInt64).toNat % 64 = 32 := rfl
  have high : (halves.1 <<< 32).toNat = halves.1.toNat <<< 32 := by
    rw [UInt64.toNat_shiftLeft, amount, Nat.shiftLeft_eq, Nat.mod_eq_of_lt (by omega)]
  rw [join, UInt64.toNat_or, high, ← Nat.shiftLeft_add_eq_or_of_lt halved.right, Nat.shiftLeft_eq]

theorem halved_split (word : UInt64) : Halved (split word) := by
  have small := word.toNat_lt
  constructor
  · rw [toNat_split_left]
    omega
  · rw [toNat_split_right]
    omega

theorem split_join {halves : UInt64 × UInt64} (halved : Halved halves) :
    split (join halves) = halves := by
  have left := halved.left
  have right := halved.right
  apply Prod.ext <;> apply UInt64.toNat_inj.mp
  · rw [toNat_split_left, toNat_join halved]
    omega
  · rw [toNat_split_right, toNat_join halved]
    omega

theorem join_split (word : UInt64) : join (split word) = word := by
  apply UInt64.toNat_inj.mp
  rw [toNat_join (halved_split word), toNat_split_left, toNat_split_right]
  omega

/-! The rounds. -/

def round (halves : UInt64 × UInt64) (key : UInt64) : UInt64 × UInt64 :=
  (halves.2, halves.1 ^^^ mix halves.2 key)

theorem mix_lt (half key : UInt64) : (mix half key).toNat < 2 ^ 32 :=
  permute_lt roundPlaces 32 _

theorem halved_round {halves : UInt64 × UInt64} (halved : Halved halves) (key : UInt64) :
    Halved (round halves key) where
  left := halved.right
  right := by
    rw [round, UInt64.toNat_xor]
    exact Nat.xor_lt_two_pow halved.left (mix_lt _ _)

theorem halved_rounds (keys : List UInt64) {halves : UInt64 × UInt64} (halved : Halved halves) :
    Halved (keys.foldl round halves) := by
  induction keys generalizing halves with
  | nil => exact halved
  | cons key rest ih => exact ih (halved_round halved key)

theorem round_swap_round (halves : UInt64 × UInt64) (key : UInt64) :
    round (round halves key).swap key = halves.swap := by
  have undone : halves.1 ^^^ mix halves.2 key ^^^ mix halves.2 key = halves.1 := by
    rw [UInt64.xor_assoc, UInt64.xor_self, UInt64.xor_zero]
  exact congrArg (Prod.mk halves.2) undone

/-- The rounds are undone from the last to the first, with the halves exchanged. -/
theorem rounds_reverse (keys : List UInt64) (halves : UInt64 × UInt64) :
    keys.reverse.foldl round (keys.foldl round halves).swap = halves.swap := by
  induction keys generalizing halves with
  | nil => rfl
  | cons key rest ih =>
    simp only [List.reverse_cons, List.foldl_append, List.foldl_cons, List.foldl_nil, ih]
    exact round_swap_round halves key

/-! Blocks. -/

-- What is done to a block taken as a number.
def cryptWord (keys : List UInt64) (word : UInt64) : UInt64 :=
  permute finalPlaces 64
    (join (keys.foldl round (split (permute initialPlaces 64 word))).swap)

theorem crypt_eq (keys : List UInt64) (block : Bytes) :
    crypt keys block = bigEndian 8 (cryptWord keys (UInt64.ofNat (toNat block))).toNat :=
  rfl

theorem cryptWord_reverse (keys : List UInt64) (word : UInt64) :
    cryptWord keys.reverse (cryptWord keys word) = word := by
  have halved : Halved (keys.foldl round (split (permute initialPlaces 64 word))).swap := by
    have kept := halved_rounds keys (halved_split (permute initialPlaces 64 word))
    exact ⟨kept.right, kept.left⟩
  simp only [cryptWord, initialPlaces_finalPlaces, split_join halved, rounds_reverse,
    Prod.swap_swap, join_split, finalPlaces_initialPlaces]

/-- The same keys in reverse order take a block back. -/
theorem crypt_reverse (keys : List UInt64) {block : Bytes} (whole : block.length = 8) :
    crypt keys.reverse (crypt keys block) = block := by
  have fits := toNat_lt block
  rw [whole] at fits
  have read : toNat (bigEndian 8 (cryptWord keys (UInt64.ofNat (toNat block))).toNat) =
      (cryptWord keys (UInt64.ofNat (toNat block))).toNat := toNat_bigEndian (UInt64.toNat_lt _)
  have same : (UInt64.ofNat (toNat block)).toNat = toNat block := by
    exact UInt64.toNat_ofNat_of_lt' fits
  have bytes := bigEndian_toNat block
  rw [whole] at bytes
  rw [crypt_eq, crypt_eq, read, UInt64.ofNat_toNat, cryptWord_reverse, same, bytes]

end Des

theorem des_lawful (key : Bytes) : (des key).Lawful where
  blockSize_pos := Nat.zero_lt_succ 7
  length_encrypt _ _ := length_bigEndian 8 _
  length_decrypt _ _ := length_bigEndian 8 _
  decrypt_encrypt _ whole := Des.crypt_reverse _ whole

section Triple

variable {first second third : BlockCipher}

/-- Three ciphers on blocks of one size make one. -/
theorem encryptDecryptEncrypt_lawful (one : first.Lawful) (two : second.Lawful)
    (three : third.Lawful) (same : second.blockSize = first.blockSize)
    (same' : third.blockSize = first.blockSize) :
    (encryptDecryptEncrypt first second third).Lawful where
  blockSize_pos := one.blockSize_pos
  length_encrypt block whole := by
    have encrypted := one.length_encrypt block whole
    have decrypted := two.length_decrypt _ (encrypted.trans same.symm)
    exact (three.length_encrypt _ (decrypted.trans (same.trans same'.symm))).trans same'
  length_decrypt block whole := by
    have decrypted := three.length_decrypt block (whole.trans same'.symm)
    have encrypted := two.length_encrypt _ (decrypted.trans (same'.trans same.symm))
    exact one.length_decrypt _ (encrypted.trans same)
  decrypt_encrypt block whole := by
    have encrypted := (one.length_encrypt block whole).trans same.symm
    have decrypted := (two.length_decrypt _ encrypted).trans (same.trans same'.symm)
    simp only [encryptDecryptEncrypt, three.decrypt_encrypt _ decrypted,
      two.encrypt_decrypt encrypted, one.decrypt_encrypt block whole]

end Triple

theorem tripleDes_lawful (key : Bytes) : (tripleDes key).Lawful :=
  encryptDecryptEncrypt_lawful (des_lawful _) (des_lawful _) (des_lawful _) rfl rfl

end CryptoProvider.Cipher
