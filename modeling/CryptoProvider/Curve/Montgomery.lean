import CryptoProvider.Arithmetic.Modular
import CryptoProvider.Bytes

/-! Agreement on the Montgomery curve over the field of 2^255 - 19 elements, by first coordinates. -/

set_option autoImplicit false

namespace CryptoProvider.Curve.X25519

open Arithmetic (powMod subMod twoTo)

def p : Nat := twoTo 255 - 19

/-- Two neighbouring multiples of a point, each as a fraction. -/
structure Ladder where
  x2 : Nat
  z2 : Nat
  x3 : Nat
  z3 : Nat

def Ladder.swap (l : Ladder) : Ladder :=
  ⟨l.x3, l.z3, l.x2, l.z2⟩

def Ladder.double (u : Nat) (l : Ladder) : Ladder :=
  let a := (l.x2 + l.z2) % p
  let b := subMod l.x2 l.z2 p
  let aa := a * a % p
  let bb := b * b % p
  let e := subMod aa bb p
  let da := subMod l.x3 l.z3 p * a % p
  let cb := (l.x3 + l.z3) % p * b % p
  let sum := (da + cb) % p
  let difference := subMod da cb p
  { x3 := sum * sum % p
    z3 := u * (difference * difference % p) % p
    x2 := aa * bb % p
    z2 := e * (aa + 121665 * e) % p }

def Ladder.step (u : Nat) (l : Ladder) (bit : Bool) : Ladder :=
  if bit then ((l.swap).double u).swap else l.double u

def bits (scalar : Nat) : List Bool :=
  (List.range 255).reverse.map scalar.testBit

def multiply (secret point : Bytes) : Bytes :=
  let scalar := Bytes.toNatLittle secret % twoTo 254 / 8 * 8 + twoTo 254
  let u := Bytes.toNatLittle point % twoTo 255 % p
  let l := (bits scalar).foldl (Ladder.step u) ⟨1, 0, u, 1⟩
  Bytes.littleEndian 32 (l.x2 * powMod l.z2 (p - 2) p % p)

def publicPoint (secret : Bytes) : Bytes :=
  multiply secret (Bytes.littleEndian 32 9)

end CryptoProvider.Curve.X25519
