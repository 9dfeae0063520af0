import CryptoProvider.Key.Encoding

/-! Secrets that two keys share. Keys of different groups, and elements out of place, share none. -/

set_option autoImplicit false

namespace CryptoProvider.Key.Agreement

open Arithmetic Curve

def smallestModulus : Nat := 512

-- Whether an element lies in a group: it is neither trivial nor outside the subgroup, if that is
-- known.
def isMember (p : Nat) (q : Option Nat) (y : Nat) : Bool :=
  2 ≤ y && y + 2 ≤ p && q.all fun q => powMod y q p == 1

-- The secret in a finite field, without leading zeros; the trivial ones are refused.
def inField (p : Nat) (q : Option Nat) (secret y : Nat) : Option Bytes :=
  let shared := powMod y secret p
  if isMember p q y ∧ smallestModulus ≤ bitLength p ∧ 1 < shared ∧ shared + 1 ≠ p then
    some (Bytes.shortest shared)
  else none

def onCurve (c : Weierstrass) (secret x y : Nat) : Option Bytes :=
  (c.multiply secret (some (x, y))).map fun point => Bytes.bigEndian c.width point.1

def onMontgomery (seed point : Bytes) : Option Bytes :=
  let shared := X25519.multiply seed point
  if shared.all (· == 0) then none else some shared

def agree (key : Private) (peer : Public) : Option Bytes :=
  match key, peer with
  | .dh p g q secret, .dh p' g' q' y =>
    if p = p' ∧ g = g' ∧ q.isSome = q'.isSome then inField p q secret y else none
  | .ec curve secret, .ec curve' x y =>
    if curve = curve' then onCurve (Weierstrass.named curve) secret x y else none
  | .x25519 seed, .x25519 point => onMontgomery seed point
  | _, _ => none

end CryptoProvider.Key.Agreement
