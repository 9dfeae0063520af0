import CryptoProvider.Key.Signature
import CryptoProvider.Proofs.Bytes.Numbers
import Mathlib.FieldTheory.Finite.Basic

/-!
RSA signatures verify. Raising to the secret and then to the public exponent of a consistent key gives
every number below the modulus back, and the padded digest of data is such a number.
-/

set_option autoImplicit false

namespace CryptoProvider

namespace Arithmetic

theorem powMod_eq (base exponent modulus : Nat) :
    powMod base exponent modulus = base ^ exponent % modulus := by
  have square (base count : Nat) :
      (base * base % modulus) ^ count % modulus = base ^ (2 * count) % modulus := by
    rw [← Nat.pow_mod, ← pow_two, ← pow_mul]
  fun_induction powMod base exponent modulus with
  | case1 base => simp
  | case2 base exponent positive half odd ih =>
    have split : 2 * (exponent / 2) + 1 = exponent := by omega
    have halved : half = base ^ (2 * (exponent / 2)) % modulus := ih.trans (square base _)
    rw [halved, Nat.mod_mul_mod, ← pow_succ, split]
  | case3 base exponent positive half even ih =>
    have split : 2 * (exponent / 2) = exponent := by omega
    have halved : half = base ^ (2 * (exponent / 2)) % modulus := ih.trans (square base _)
    rw [halved, split]

end Arithmetic

namespace Bytes

theorem lt_pow_widthOf (value : Nat) : value < 256 ^ widthOf value := by
  by_cases zero : value = 0
  · simp [widthOf, zero]
  · have wide : value.log2 + 1 ≤ 8 * (value.log2 / 8 + 1) := by omega
    calc
      value < 2 ^ (value.log2 + 1) := Nat.lt_log2_self
      _ ≤ 2 ^ (8 * (value.log2 / 8 + 1)) := Nat.pow_le_pow_right Nat.two_pos wide
      _ = 256 ^ widthOf value := by
        rw [pow_mul, widthOf, if_neg zero]
        rfl

theorem pow_widthOf_le {value : Nat} (nonzero : value ≠ 0) :
    256 ^ (widthOf value - 1) ≤ value := by
  have narrow : 8 * (value.log2 / 8) ≤ value.log2 := by omega
  calc
    256 ^ (widthOf value - 1) = 2 ^ (8 * (value.log2 / 8)) := by
      rw [widthOf, if_neg nonzero, Nat.add_sub_cancel, pow_mul]
      rfl
    _ ≤ 2 ^ value.log2 := Nat.pow_le_pow_right Nat.two_pos narrow
    _ ≤ value := Nat.log2_self_le nonzero

/-- A number with a zero in front is below the modulus that it is as long as. -/
theorem toNat_zero_cons_lt {rest : Bytes} {modulus : Nat} (nonzero : modulus ≠ 0)
    (fits : rest.length = widthOf modulus - 1) : toNat (0 :: rest) < modulus :=
  calc
    toNat (0 :: rest) = toNat rest := rfl
    _ < 256 ^ rest.length := toNat_lt rest
    _ ≤ modulus := fits ▸ pow_widthOf_le nonzero

end Bytes

namespace Key

/-- The numbers of an RSA key that belong together: two primes, and exponents that undo each other. -/
structure Rsa (exponent secret p q : Nat) : Prop where
  prime_left : p.Prime
  prime_right : q.Prime
  apart : p ≠ q
  positive : 0 < secret * exponent
  left : secret * exponent ≡ 1 [MOD p - 1]
  right : secret * exponent ≡ 1 [MOD q - 1]

namespace Rsa

variable {exponent secret p q : Nat}

/-- A number raised to a power that is one modulo `p - 1` is itself modulo the prime `p`. -/
theorem pow_modEq_self (prime : p.Prime) {power : Nat} (positive : 0 < power)
    (one : power ≡ 1 [MOD p - 1]) (value : Nat) : value ^ power ≡ value [MOD p] := by
  have := Fact.mk prime
  obtain ⟨turns, rounds⟩ := (Nat.modEq_iff_dvd' positive).mp one.symm
  have split : power = (p - 1) * turns + 1 := by omega
  rw [← ZMod.natCast_eq_natCast_iff]
  push_cast
  by_cases zero : (value : ZMod p) = 0
  · rw [zero, zero_pow positive.ne']
  · rw [split, pow_succ, pow_mul, ZMod.pow_card_sub_one_eq_one zero, one_pow, one_mul]

/-- The public exponent takes back what the secret one does to a number below the modulus. -/
theorem powMod_powMod (rsa : Rsa exponent secret p q) {value : Nat} (below : value < p * q) :
    Arithmetic.powMod (Arithmetic.powMod value secret (p * q)) exponent (p * q) = value := by
  have coprime : p.Coprime q := (Nat.coprime_primes rsa.prime_left rsa.prime_right).mpr rsa.apart
  have both : value ^ (secret * exponent) ≡ value [MOD p * q] :=
    (Nat.modEq_and_modEq_iff_modEq_mul coprime).mp
      ⟨pow_modEq_self rsa.prime_left rsa.positive rsa.left value,
        pow_modEq_self rsa.prime_right rsa.positive rsa.right value⟩
  rw [Arithmetic.powMod_eq, Arithmetic.powMod_eq, ← Nat.pow_mod, ← pow_mul]
  exact Eq.trans both (Nat.mod_eq_of_lt below)

end Rsa

namespace Signature

open Arithmetic Encoding

variable {d : Digest} {width : Nat} {data padded : Bytes}

/-- A padded digest is as long as was asked for, and begins with a zero. -/
theorem paddedValue?_eq_some (found : paddedValue? d width data = some padded) :
    ∃ rest, padded = 0 :: rest ∧ rest.length + 1 = width := by
  unfold paddedValue? at found
  dsimp only at found
  split at found
  case isTrue => cases found
  case isFalse room =>
    refine ⟨_, (Option.some.inj found).symm.trans List.cons_append, ?_⟩
    simp only [List.length_cons, List.length_append, List.length_replicate]
    omega

/-- Signing fails only if the modulus has no room for the padded digest. -/
theorem exists_signRsa {modulus : Nat} (secret : Nat)
    (room : (namedValue d data).length + 11 ≤ Bytes.widthOf modulus) :
    ∃ signature, signRsa d modulus secret data = some signature := by
  simp only [signRsa, paddedValue?, Nat.not_lt.mpr room, if_false, Option.map_some,
    Option.some.injEq, exists_eq']

theorem length_namedValue_sha256 (data : Bytes) : (namedValue Digest.sha256 data).length = 51 := by
  simp [namedValue, Der.sequence, Der.tagged, Der.octetString, Der.null, Der.objectIdentifier,
    Der.lengthOctets, Digest.sha256]

/-- What is signed with a consistent key verifies. -/
theorem verifyRsa_signRsa {exponent secret p q : Nat} (rsa : Rsa exponent secret p q)
    {signature : Bytes} (signed : signRsa d (p * q) secret data = some signature) :
    verifyRsa d (p * q) exponent data signature = true := by
  obtain ⟨padded, found, rfl⟩ := Option.map_eq_some_iff.mp signed
  obtain ⟨rest, rfl, length⟩ := paddedValue?_eq_some found
  have nonzero : p * q ≠ 0 := (Nat.mul_pos rsa.prime_left.pos rsa.prime_right.pos).ne'
  have below : Bytes.toNat (0 :: rest) < p * q :=
    Bytes.toNat_zero_cons_lt nonzero (by omega)
  have reduced : powMod (Bytes.toNat (0 :: rest)) secret (p * q) < p * q := by
    rw [powMod_eq]
    exact Nat.mod_lt _ (Nat.pos_of_ne_zero nonzero)
  have read := Bytes.toNat_bigEndian (reduced.trans (Bytes.lt_pow_widthOf (p * q)))
  have written : Bytes.bigEndian (Bytes.widthOf (p * q)) (Bytes.toNat (0 :: rest)) = 0 :: rest := by
    rw [← length]
    exact Bytes.bigEndian_toNat (0 :: rest)
  simp only [verifyRsa, read, Bytes.length_bigEndian, ne_eq, not_true_eq_false, false_or,
    Nat.not_le.mpr reduced, if_false, rsa.powMod_powMod below, written, found, BEq.rfl]

end Signature

end Key

end CryptoProvider
