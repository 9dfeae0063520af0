import CryptoProvider.Bytes
import Mathlib.Algebra.Ring.Nat

/-!
Byte strings as numbers, and mixed with each other. A number that fits is read back from its bytes,
and bytes are read back from their number; what is mixed in twice is gone.
-/

set_option autoImplicit false

namespace CryptoProvider.Bytes

@[simp] theorem length_xor (left right : Bytes) :
    (xor left right).length = min left.length right.length :=
  List.length_zipWith

theorem length_xor_of_eq {left right : Bytes} {size : Nat} (first : left.length = size)
    (second : right.length = size) : (xor left right).length = size := by
  rw [length_xor, first, second, Nat.min_self]

theorem xor_cancel {left right : Bytes} (covers : left.length ≤ right.length) :
    xor (xor left right) right = left := by
  induction left generalizing right with
  | nil => simp [xor]
  | cons byte rest ih =>
    cases right with
    | nil => simp at covers
    | cons other others =>
      have later : xor (xor rest others) others = rest := ih (by simpa using covers)
      simp only [xor, List.zipWith_cons_cons, List.cons.injEq]
      exact ⟨by rw [UInt8.xor_assoc, UInt8.xor_self, UInt8.xor_zero], later⟩

theorem toNatLittle_cons (byte : UInt8) (rest : Bytes) :
    toNatLittle (byte :: rest) = toNatLittle rest * 256 + byte.toNat := by
  simp [toNatLittle, toNat]

theorem toNatLittle_lt (bytes : Bytes) : toNatLittle bytes < 256 ^ bytes.length := by
  induction bytes with
  | nil => simp [toNatLittle, toNat]
  | cons byte rest ih =>
    have small := byte.toNat_lt
    rw [toNatLittle_cons, List.length_cons, pow_succ]
    omega

theorem littleEndian_toNatLittle (bytes : Bytes) :
    littleEndian bytes.length (toNatLittle bytes) = bytes := by
  induction bytes with
  | nil => rfl
  | cons byte rest ih =>
    have small := byte.toNat_lt
    have high : (toNatLittle rest * 256 + byte.toNat) / 256 = toNatLittle rest := by omega
    have low : UInt8.ofNat (toNatLittle rest * 256 + byte.toNat) = byte := by
      apply UInt8.toNat_inj.mp
      rw [UInt8.toNat_ofNat']
      omega
    rw [toNatLittle_cons, List.length_cons, littleEndian, low, high, ih]

theorem toNatLittle_littleEndian {width value : Nat} (fits : value < 256 ^ width) :
    toNatLittle (littleEndian width value) = value := by
  induction width generalizing value with
  | zero =>
    rw [pow_zero] at fits
    simp [littleEndian, toNatLittle, toNat]
    omega
  | succ width ih =>
    rw [pow_succ] at fits
    rw [littleEndian, toNatLittle_cons, ih (by omega), UInt8.toNat_ofNat']
    omega

/-- Bytes are read back from the number that they are. -/
theorem bigEndian_toNat (bytes : Bytes) : bigEndian bytes.length (toNat bytes) = bytes := by
  have little := littleEndian_toNatLittle bytes.reverse
  rw [List.length_reverse, toNatLittle, List.reverse_reverse] at little
  rw [bigEndian, little, List.reverse_reverse]

/-- A number that fits is read back from its bytes. -/
theorem toNat_bigEndian {width value : Nat} (fits : value < 256 ^ width) :
    toNat (bigEndian width value) = value :=
  toNatLittle_littleEndian fits

theorem toNat_lt (bytes : Bytes) : toNat bytes < 256 ^ bytes.length := by
  have little := toNatLittle_lt bytes.reverse
  rwa [toNatLittle, List.reverse_reverse, List.length_reverse] at little

end CryptoProvider.Bytes
