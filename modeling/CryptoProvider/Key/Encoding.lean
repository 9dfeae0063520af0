import CryptoProvider.Curve.Edwards
import CryptoProvider.Curve.Montgomery
import CryptoProvider.Curve.Weierstrass
import CryptoProvider.Encoding.Der

/-!
Public keys: how they follow from private ones, and their standard encoding as an algorithm with its
parameters and a string of bits.
-/

set_option autoImplicit false

namespace CryptoProvider.Key

open Encoding Arithmetic Curve

-- The public half of a key; a multiple of a curve's generator that is not a point has none.
def Private.publicHalf? : Private → Option Public
  | .rsa n e _ _ _ => some (.rsa n e)
  | .ec curve d =>
    let c := Weierstrass.named curve
    (c.multiply (d % c.order) c.generator).map fun point => .ec curve point.1 point.2
  | .dsa p q g x => some (.dsa p q g (powMod g x p))
  | .dh p g q x => some (.dh p g q (powMod g x p))
  | .edwards curve seed => some (.edwards curve ((Edwards.named curve).publicPoint seed))
  | .x25519 seed => some (.x25519 (X25519.publicPoint seed))

def Private.type : Private → String
  | .rsa .. => "RSA"
  | .ec .. => "EC"
  | .dsa .. => "DSA"
  | .dh _ _ none _ => "DH"
  | .dh _ _ (some _) _ => "DHX"
  | .edwards .ed25519 _ => "ED25519"
  | .edwards .ed448 _ => "ED448"
  | .x25519 _ => "X25519"

def Private.bits : Private → Nat
  | .rsa n .. => bitLength n
  | .ec curve _ => bitLength (Weierstrass.named curve).order
  | .dsa p .. => bitLength p
  | .dh p .. => bitLength p
  | .edwards .ed25519 _ => 256
  | .edwards .ed448 _ => 456
  | .x25519 _ => 253

namespace Public

def rsaIdentifier : Bytes := [0x2a, 0x86, 0x48, 0x86, 0xf7, 0x0d, 0x01, 0x01, 0x01]
def ecIdentifier : Bytes := [0x2a, 0x86, 0x48, 0xce, 0x3d, 0x02, 0x01]
def dsaIdentifier : Bytes := [0x2a, 0x86, 0x48, 0xce, 0x38, 0x04, 0x01]
def dhIdentifier : Bytes := [0x2a, 0x86, 0x48, 0x86, 0xf7, 0x0d, 0x01, 0x03, 0x01]
def dhSubgroupIdentifier : Bytes := [0x2a, 0x86, 0x48, 0xce, 0x3e, 0x02, 0x01]
def ed25519Identifier : Bytes := [0x2b, 0x65, 0x70]
def ed448Identifier : Bytes := [0x2b, 0x65, 0x71]
def x25519Identifier : Bytes := [0x2b, 0x65, 0x6e]

/-- The identifier of an algorithm, its encoded parameters and the key's bits. -/
structure Parts where
  identifier : Bytes
  parameters : Bytes
  bits : Bytes
  deriving DecidableEq, Repr

def toParts : Public → Parts
  | .rsa n e => ⟨rsaIdentifier, Der.null, Der.sequence [Der.integer n, Der.integer e]⟩
  | .ec curve x y =>
    let c := Weierstrass.named curve
    ⟨ecIdentifier, Der.objectIdentifier c.identifier, c.encode x y⟩
  | .dsa p q g y =>
    ⟨dsaIdentifier, Der.sequence [Der.integer p, Der.integer q, Der.integer g], Der.integer y⟩
  | .dh p g none y => ⟨dhIdentifier, Der.sequence [Der.integer p, Der.integer g], Der.integer y⟩
  | .dh p g (some q) y =>
    ⟨dhSubgroupIdentifier, Der.sequence [Der.integer p, Der.integer g, Der.integer q],
      Der.integer y⟩
  | .edwards .ed25519 point => ⟨ed25519Identifier, [], point⟩
  | .edwards .ed448 point => ⟨ed448Identifier, [], point⟩
  | .x25519 point => ⟨x25519Identifier, [], point⟩

def encode (key : Public) : Bytes :=
  let parts := key.toParts
  Der.sequence
    [Der.sequence [Der.objectIdentifier parts.identifier, parts.parameters],
      Der.bitString parts.bits]

def readParts? (encoded : Bytes) : Option Parts := do
  let content ← Der.readWhole? 0x30 encoded
  let (algorithm, rest) ← Der.readTagged? 0x30 content
  let (identifier, parameters) ← Der.readTagged? 0x06 algorithm
  let (bits, rest) ← Der.readBitString? rest
  if rest.isEmpty then some ⟨identifier, parameters, bits⟩ else none

def readNumbers? (count : Nat) (encoded : Bytes) : Option (List Nat) := do
  Der.readIntegers? count (← Der.readWhole? 0x30 encoded)

def curveOf? (parameters : Bytes) : Option CurveName :=
  [.secp224r1, .prime256v1, .secp256k1, .secp384r1, .secp521r1].find? fun curve =>
    Der.objectIdentifier (Weierstrass.named curve).identifier == parameters

def ofParts? (parts : Parts) : Option Public := do
  if parts.identifier = rsaIdentifier then
    let [n, e] ← readNumbers? 2 parts.bits | none
    return .rsa n e
  else if parts.identifier = ecIdentifier then
    let curve ← curveOf? parts.parameters
    let (x, y) ← (Weierstrass.named curve).decode? parts.bits
    return .ec curve x y
  else if parts.identifier = dsaIdentifier then
    let [p, q, g] ← readNumbers? 3 parts.parameters | none
    let [y] ← Der.readIntegers? 1 parts.bits | none
    return .dsa p q g y
  else if parts.identifier = dhIdentifier then
    let [p, g] ← readNumbers? 2 parts.parameters | none
    let [y] ← Der.readIntegers? 1 parts.bits | none
    return .dh p g none y
  else if parts.identifier = dhSubgroupIdentifier then
    let [p, g, q] ← readNumbers? 3 parts.parameters | none
    let [y] ← Der.readIntegers? 1 parts.bits | none
    return .dh p g (some q) y
  else if parts.parameters.isEmpty then
    if parts.identifier = ed25519Identifier ∧ parts.bits.length = 32 then
      return .edwards .ed25519 parts.bits
    else if parts.identifier = ed448Identifier ∧ parts.bits.length = 57 then
      return .edwards .ed448 parts.bits
    else if parts.identifier = x25519Identifier ∧ parts.bits.length = 32 then
      return .x25519 parts.bits
    else none
  else none

def decode? (encoded : Bytes) : Option Public :=
  (readParts? encoded).bind ofParts?

end Public

end CryptoProvider.Key
