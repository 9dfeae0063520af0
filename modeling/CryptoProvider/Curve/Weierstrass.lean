import CryptoProvider.Arithmetic.Modular
import CryptoProvider.Key.Basic

/-! Short Weierstrass curves `y² = x³ + a x + b` over prime fields, in affine coordinates. -/

set_option autoImplicit false

namespace CryptoProvider.Curve

open Arithmetic (inverse subMod bitLength twoTo)

structure Weierstrass where
  p : Nat
  a : Nat
  b : Nat
  order : Nat
  x : Nat
  y : Nat
  identifier : Bytes

/-- A point: the coordinates, or `none` for the point at infinity. -/
abbrev Point := Option (Nat × Nat)

namespace Weierstrass

def width (c : Weierstrass) : Nat :=
  (bitLength c.p + 7) / 8

def generator (c : Weierstrass) : Point :=
  some (c.x, c.y)

def contains (c : Weierstrass) (x y : Nat) : Bool :=
  x < c.p && y < c.p && (y * y) % c.p == (x * x * x + c.a * x + c.b) % c.p

-- The third point on the line with the given slope through a point, reflected.
def along (c : Weierstrass) (slope x y otherX : Nat) : Point :=
  let x3 := subMod (slope * slope % c.p) ((x + otherX) % c.p) c.p
  some (x3, subMod (slope * subMod x x3 c.p % c.p) y c.p)

def double (c : Weierstrass) : Point → Point
  | none => none
  | some (x, y) =>
    if y = 0 then none
    else
      let slope := (3 * x * x + c.a) % c.p * inverse (2 * y) c.p % c.p
      c.along slope x y x

def add (c : Weierstrass) : Point → Point → Point
  | none, q => q
  | p, none => p
  | some (x, y), some (x', y') =>
    if x = x' then
      if y = y' then c.double (some (x, y)) else none
    else
      let slope := subMod y' y c.p * inverse (subMod x' x c.p) c.p % c.p
      c.along slope x y x'

def multiply (c : Weierstrass) (scalar : Nat) (point : Point) : Point :=
  if _h : scalar = 0 then none
  else
    let half := c.multiply (scalar / 2) (c.double point)
    if scalar % 2 = 1 then c.add half point else half
termination_by scalar
decreasing_by exact Nat.div_lt_self (Nat.pos_of_ne_zero _h) (by omega)

def encode (c : Weierstrass) (x y : Nat) : Bytes :=
  0x04 :: Bytes.bigEndian c.width x ++ Bytes.bigEndian c.width y

def decode? (c : Weierstrass) : Bytes → Option (Nat × Nat)
  | 0x04 :: rest =>
    let x := Bytes.toNat (rest.take c.width)
    let y := Bytes.toNat (rest.drop c.width)
    if rest.length = 2 * c.width ∧ c.contains x y then some (x, y) else none
  | _ => none

def secp224r1 : Weierstrass where
  p := 0xffffffffffffffffffffffffffffffff000000000000000000000001
  a := 0xfffffffffffffffffffffffffffffffefffffffffffffffffffffffe
  b := 0xb4050a850c04b3abf54132565044b0b7d7bfd8ba270b39432355ffb4
  order := 0xffffffffffffffffffffffffffff16a2e0b8f03e13dd29455c5c2a3d
  x := 0xb70e0cbd6bb4bf7f321390b94a03c1d356c21122343280d6115c1d21
  y := 0xbd376388b5f723fb4c22dfe6cd4375a05a07476444d5819985007e34
  identifier := [0x2b, 0x81, 0x04, 0x00, 0x21]

def prime256v1 : Weierstrass where
  p := 0xffffffff00000001000000000000000000000000ffffffffffffffffffffffff
  a := 0xffffffff00000001000000000000000000000000fffffffffffffffffffffffc
  b := 0x5ac635d8aa3a93e7b3ebbd55769886bc651d06b0cc53b0f63bce3c3e27d2604b
  order := 0xffffffff00000000ffffffffffffffffbce6faada7179e84f3b9cac2fc632551
  x := 0x6b17d1f2e12c4247f8bce6e563a440f277037d812deb33a0f4a13945d898c296
  y := 0x4fe342e2fe1a7f9b8ee7eb4a7c0f9e162bce33576b315ececbb6406837bf51f5
  identifier := [0x2a, 0x86, 0x48, 0xce, 0x3d, 0x03, 0x01, 0x07]

def secp256k1 : Weierstrass where
  p := 0xfffffffffffffffffffffffffffffffffffffffffffffffffffffffefffffc2f
  a := 0
  b := 7
  order := 0xfffffffffffffffffffffffffffffffebaaedce6af48a03bbfd25e8cd0364141
  x := 0x79be667ef9dcbbac55a06295ce870b07029bfcdb2dce28d959f2815b16f81798
  y := 0x483ada7726a3c4655da4fbfc0e1108a8fd17b448a68554199c47d08ffb10d4b8
  identifier := [0x2b, 0x81, 0x04, 0x00, 0x0a]

def secp384r1 : Weierstrass where
  p := 0xfffffffffffffffffffffffffffffffffffffffffffffffffffffffffffffffeffffffff0000000000000000ffffffff
  a := 0xfffffffffffffffffffffffffffffffffffffffffffffffffffffffffffffffeffffffff0000000000000000fffffffc
  b := 0xb3312fa7e23ee7e4988e056be3f82d19181d9c6efe8141120314088f5013875ac656398d8a2ed19d2a85c8edd3ec2aef
  order := 0xffffffffffffffffffffffffffffffffffffffffffffffffc7634d81f4372ddf581a0db248b0a77aecec196accc52973
  x := 0xaa87ca22be8b05378eb1c71ef320ad746e1d3b628ba79b9859f741e082542a385502f25dbf55296c3a545e3872760ab7
  y := 0x3617de4a96262c6f5d9e98bf9292dc29f8f41dbd289a147ce9da3113b5f0b8c00a60b1ce1d7e819d7a431d7c90ea0e5f
  identifier := [0x2b, 0x81, 0x04, 0x00, 0x22]

def secp521r1 : Weierstrass where
  p := twoTo 521 - 1
  a := twoTo 521 - 4
  b := 0x51953eb9618e1c9a1f929a21a0b68540eea2da725b99b315f3b8b489918ef109e156193951ec7e937b1652c0bd3bb1bf073573df883d2c34f1ef451fd46b503f00
  order := 0x1fffffffffffffffffffffffffffffffffffffffffffffffffffffffffffffffffa51868783bf2f966b7fcc0148f709a5d03bb5c9b8899c47aebb6fb71e91386409
  x := 0xc6858e06b70404e9cd9e3ecb662395b4429c648139053fb521f828af606b4d3dbaa14b5e77efe75928fe1dc127a2ffa8de3348b3c1856a429bf97e7e31c2e5bd66
  y := 0x11839296a789a3bc0045c8a5fb42c7d1bd998f54449579b446817afbd17273e662c97ee72995ef42640c550b9013fad0761353c7086a272c24088be94769fd16650
  identifier := [0x2b, 0x81, 0x04, 0x00, 0x23]

def named : Key.CurveName → Weierstrass
  | .secp224r1 => secp224r1
  | .prime256v1 => prime256v1
  | .secp256k1 => secp256k1
  | .secp384r1 => secp384r1
  | .secp521r1 => secp521r1

end Weierstrass

end CryptoProvider.Curve
