import CryptoProvider.Arithmetic.Modular
import CryptoProvider.Digest.Keccak
import CryptoProvider.Digest.Sha512
import CryptoProvider.Key.Basic

/-!
Signatures on Edwards curves `a x² + y² = 1 + d x² y²`. The two curves differ in how strictly
points are read and in whether a signature is compared exactly or up to points of small order.
-/

set_option autoImplicit false

namespace CryptoProvider.Curve

open Arithmetic (powMod inverse subMod twoTo)

structure Edwards where
  p : Nat
  a : Nat
  d : Nat
  order : Nat
  x : Nat
  y : Nat
  width : Nat
  hash : Bytes → Bytes
  /-- The secret scalar in the first half of a hashed seed. -/
  clamp : Nat → Nat
  root? : (numerator denominator : Nat) → Option Nat
  /-- Whether a point may be written with a coordinate that is not reduced, or lie on the axis. -/
  lenient : Bool
  /-- The multiple up to which signatures are compared. -/
  cofactor : Nat

namespace Edwards

-- The sum of two points; the formula has no exceptions.
def add (c : Edwards) (first second : Nat × Nat) : Nat × Nat :=
  let (x, y) := first
  let (x', y') := second
  let product := x * x' % c.p * (y * y' % c.p) % c.p * c.d % c.p
  let plus := (1 + product) % c.p
  let minus := subMod 1 product c.p
  let both := inverse (plus * minus) c.p
  let x3 := (x * y' + x' * y) % c.p * minus % c.p * both % c.p
  let y3 := subMod (y * y' % c.p) (c.a * (x * x' % c.p) % c.p) c.p * plus % c.p * both % c.p
  (x3, y3)

def multiply (c : Edwards) (scalar : Nat) (point : Nat × Nat) : Nat × Nat :=
  if _h : scalar = 0 then (0, 1)
  else
    let half := c.multiply (scalar / 2) (c.add point point)
    if scalar % 2 = 1 then c.add half point else half
termination_by scalar
decreasing_by exact Nat.div_lt_self (Nat.pos_of_ne_zero _h) (by omega)

def generator (c : Edwards) : Nat × Nat :=
  (c.x, c.y)

def encode (c : Edwards) (point : Nat × Nat) : Bytes :=
  Bytes.littleEndian c.width (point.2 + point.1 % 2 * twoTo (8 * c.width - 1))

def decode? (c : Edwards) (bytes : Bytes) : Option (Nat × Nat) :=
  let value := Bytes.toNatLittle bytes
  let sign := value / twoTo (8 * c.width - 1)
  let y := value % twoTo (8 * c.width - 1)
  if bytes.length ≠ c.width ∨ (c.lenient = false ∧ c.p ≤ y) then none
  else do
    let y := y % c.p
    let square := y * y % c.p
    let numerator := subMod 1 square c.p
    let denominator := subMod c.a (c.d * square % c.p) c.p
    let x ← c.root? numerator denominator
    if x = 0 ∧ c.lenient = false then none
    else if x % 2 = sign then some (x, y) else some ((c.p - x) % c.p, y)

-- The secret scalar and the part of the hashed seed that makes nonces.
def secrets (c : Edwards) (seed : Bytes) : Nat × Bytes :=
  let hashed := c.hash seed
  (c.clamp (Bytes.toNatLittle (hashed.take c.width)), hashed.drop c.width)

def publicPoint (c : Edwards) (seed : Bytes) : Bytes :=
  c.encode (c.multiply (c.secrets seed).1 c.generator)

def challenge (c : Edwards) (tag : Bytes) (parts : List Bytes) : Nat :=
  Bytes.toNatLittle (c.hash (tag ++ parts.flatten)) % c.order

-- Signs; `tag` goes in front of everything that is hashed for the signature.
def sign (c : Edwards) (tag seed data : Bytes) : Bytes :=
  let (secret, nonceKey) := c.secrets seed
  let point := c.publicPoint seed
  let nonce := c.challenge tag [nonceKey, data]
  let commitment := c.encode (c.multiply nonce c.generator)
  let response := (nonce + c.challenge tag [commitment, point, data] * secret) % c.order
  commitment ++ Bytes.littleEndian c.width response

-- Whether a commitment is the expected point: exactly, or after reading it, up to small order.
def matchesCommitment (c : Edwards) (commitment : Bytes) (expected : Nat × Nat) : Bool :=
  if c.cofactor = 1 then c.encode expected == commitment
  else match c.decode? commitment with
    | none => false
    | some point => c.multiply c.cofactor point == c.multiply c.cofactor expected

def verify (c : Edwards) (tag point data signature : Bytes) : Bool :=
  let commitment := signature.take c.width
  let response := Bytes.toNatLittle (signature.drop c.width)
  if signature.length ≠ 2 * c.width ∨ c.order ≤ response then false
  else match c.decode? point with
    | none => false
    | some (x, y) =>
      let factor := c.challenge tag [commitment, point, data]
      let expected :=
        c.add (c.multiply response c.generator) (c.multiply factor ((c.p - x) % c.p, y))
      c.matchesCommitment commitment expected

-- A square root of a quotient modulo a prime that leaves five after division by eight.
def rootFive? (p numerator denominator : Nat) : Option Nat :=
  let cube := denominator * denominator % p * denominator % p
  let seventh := cube * cube % p * denominator % p
  let x := numerator * cube % p * powMod (numerator * seventh % p) ((p - 5) / 8) p % p
  let check := denominator * (x * x % p) % p
  if check = numerator % p then some x
  else if check = (p - numerator % p) % p then some (x * powMod 2 ((p - 1) / 4) p % p)
  else none

-- A square root of a quotient modulo a prime that leaves three after division by four.
def rootThree? (p numerator denominator : Nat) : Option Nat :=
  let square := numerator * inverse denominator p % p
  let x := powMod square ((p + 1) / 4) p
  if x * x % p = square then some x else none

def ed25519 : Edwards :=
  let p := twoTo 255 - 19
  { p
    a := p - 1
    d := 0x52036cee2b6ffe738cc740797779e89800700a4d4141d8ab75eb4dca135978a3
    order := twoTo 252 + 27742317777372353535851937790883648493
    x := 0x216936d3cd6e53fec0a4e231fdd6dc5c692cc7609525a7b2c9562d608f25d51a
    y := 0x6666666666666666666666666666666666666666666666666666666666666658
    width := 32
    hash := Digest.sha512.hash
    clamp := fun n => n % twoTo 254 / 8 * 8 + twoTo 254
    root? := fun numerator denominator =>
      rootFive? p ((p - numerator) % p) ((p - denominator) % p)
    lenient := true
    cofactor := 1 }

def ed448 : Edwards :=
  let p := twoTo 448 - twoTo 224 - 1
  { p
    a := 1
    d := p - 39081
    order := twoTo 446 - 13818066809895115352007386748515426880336692474882178609894547503885
    x := 0x4f1970c66bed0ded221d15a622bf36da9e146570470f1767ea6de324a3d3a46412ae1af72ab66511433b80e18b00938e2626a82bc70cc05e
    y := 0x693f46716eb6bc248876203756c9c7624bea73736ca3984087789c1e05a0c2d73ad3ff1ce67c39c4fdbd132c4ed7c8ad9808795bf230fa14
    width := 57
    hash := fun data => Digest.shake256 data 114
    clamp := fun n => n % twoTo 447 / 4 * 4 + twoTo 447
    root? := rootThree? p
    lenient := false
    cofactor := 4 }

def named : Key.EdwardsName → Edwards
  | .ed25519 => ed25519
  | .ed448 => ed448

def tag : Key.EdwardsName → Bytes
  | .ed25519 => []
  | .ed448 => Bytes.ofText "SigEd448" ++ [0, 0]

end Edwards

end CryptoProvider.Curve
