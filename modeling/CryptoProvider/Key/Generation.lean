import CryptoProvider.Arithmetic.Prime
import CryptoProvider.Curve.Weierstrass
import CryptoProvider.Digest.Sha256
import CryptoProvider.Key.Basic

/-!
Fresh keys. All numbers follow from the state of the random source, so a request and a state
determine the key; sizes out of bounds are refused.
-/

set_option autoImplicit false

namespace CryptoProvider.Key.Generation

open Arithmetic Curve

def bytesFor (seed purpose count : Nat) : Bytes :=
  let blocks := (List.range (count / 32 + 1)).flatMap fun block =>
    Digest.sha256.hash
      (Bytes.bigEndian 8 seed ++ Bytes.bigEndian 8 purpose ++ Bytes.bigEndian 8 block)
  blocks.take count

def numberFor (seed purpose bits : Nat) : Nat :=
  Bytes.toNat (bytesFor seed purpose (bits / 8 + 1)) % twoTo bits

def highNumber (seed purpose bits : Nat) : Nat :=
  twoTo (bits - 1) + twoTo (bits - 2) + numberFor seed purpose (bits - 2)

def scalarBelow (seed purpose order : Nat) : Nat :=
  numberFor seed purpose (bitLength order + 64) % (order - 1) + 1

-- More candidates than a search for a prime of `bits` bits is expected to look at.
def candidates (bits : Nat) : Nat :=
  64 * bits

-- A prime of `bits` bits that leaves one to no power: one less than it has no factor with the
-- exponent.
def rsaPrime? (seed purpose exponent bits : Nat) : Option Nat :=
  search (fun p => isPrime p && (p - 1) % exponent != 0 && bitLength p == bits) 2 (candidates bits)
    (highNumber seed purpose bits ||| 1)

def rsa (bits seed : Nat) : Option Private := do
  let exponent := 65537
  let p ← rsaPrime? seed 0 exponent (bits - bits / 2)
  let q ← rsaPrime? seed 1 exponent (bits / 2)
  let secret ← inverse? exponent ((p - 1) * (q - 1))
  return .rsa (p * q) exponent secret p q

-- A prime of `bits` bits that leaves one when divided by twice `q`.
def primeOver? (seed purpose q bits : Nat) : Option Nat :=
  let start := highNumber seed purpose bits
  search (fun p => isPrime p && bitLength p == bits) (2 * q) (candidates bits)
    (start - start % (2 * q) + 1)

def subgroupGenerator? (p q : Nat) : Option Nat :=
  ((List.range 64).map fun h => powMod (h + 2) ((p - 1) / q) p).find? (1 < ·)

def dsa (bits seed : Nat) : Option Private := do
  let orderBits := if bits < 2048 then 160 else 256
  let q ← search isPrime 2 (candidates orderBits) (highNumber seed 0 orderBits ||| 1)
  let p ← primeOver? seed 1 q bits
  let g ← subgroupGenerator? p q
  return .dsa p q g (scalarBelow seed 2 q)

def isSafePrime (bits p : Nat) : Bool :=
  let q := p / 2
  hasNoSmallFactor p && hasNoSmallFactor q && passesStrongTest q 2 && isPrime p && isPrime q &&
    bitLength p == bits

-- An agreement key in a fresh group, which two generates.
def dh (bits seed : Nat) : Option Private := do
  let start := highNumber seed 0 bits
  let p ← search (isSafePrime bits) 24 (bits * bits) (start - start % 24 + 23)
  return .dh p 2 none (scalarBelow seed 1 (p / 2))

def standardGroup : Nat × Nat × Nat :=
  (0x87a8e61db4b6663cffbbd19c651959998ceef608660dd0f25d2ceed4435e3b00e00df8f1d61957d4faf7df4561b2aa3016c3d91134096faa3bf4296d830e9a7c209e0c6497517abd5a8a9d306bcf67ed91f9e6725b4758c022e0b1ef4275bf7b6c5bfc11d45f9088b941f54eb1e59bb8bc39a0bf12307f5c4fdb70c581b23f76b63acae1caa6b7902d52526735488a0ef13c6d9a51bfa4ab3ad8347796524d8ef6a167b5a41825d967e144e5140564251ccacb83e6b486f6b3ca3f7971506026c0b857f689962856ded4010abd0be621c3a3960a54e710c375f26375d7014103a4b54330c198af126116d2276e11715f693877fad7ef09cadb094ae91e1a1597,
    0x3fb32c9b73134d0b2e77506660edbd484ca7b18f21ef205407f4793a1a0ba12510dbc15077be463fff4fed4aac0bb555be3a6c1b0c6b47b1bc3773bf7e8c6f62901228f8c28cbb18a55ae31341000a650196f931c77a57f2ddf463e5e9ec144b777de62aaab8a8628ac376d282d6ed3864e67982428ebc831d14348f6f2f9193b5045af2767164e1dfc967c1fb3f2e55a4bd1bffe83b9c80d052b985d182ea0adb2a3b7313d3fe14c8484b1e052588b9b7d2bbd2df016199ecd06e1557cd0915b3353bbb64e0ec377fd028370df92b52c7891428cdc67eb6184b523d1db246c32f63078490f00ef8d647d148d47954515e2327cfef98c582664b4c0f6cc41659,
    0x8cf83642a709a097b447997640129da299b1a47d1eb3750ba308b0fe64f5fbd3)

def generate (request : Request) (seed : Nat) : Option Private :=
  match request with
  | .rsa bits => if 512 ≤ bits ∧ bits ≤ 16384 then rsa bits seed else none
  | .dsa bits => if 512 ≤ bits ∧ bits ≤ 10000 then dsa bits seed else none
  | .dh bits => if 512 ≤ bits ∧ bits ≤ 10000 then dh bits seed else none
  | .dhStandard =>
    let (p, g, q) := standardGroup
    some (.dh p g (some q) (scalarBelow seed 0 q))
  | .ec curve => some (.ec curve (scalarBelow seed 0 (Weierstrass.named curve).order))
  | .edwards .ed25519 => some (.edwards .ed25519 (bytesFor seed 0 32))
  | .edwards .ed448 => some (.edwards .ed448 (bytesFor seed 0 57))

end CryptoProvider.Key.Generation
