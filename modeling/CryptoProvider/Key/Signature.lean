import CryptoProvider.Curve.Edwards
import CryptoProvider.Curve.Weierstrass
import CryptoProvider.Digest.Sha256
import CryptoProvider.Encoding.Der
import CryptoProvider.Key.Encoding

/-!
Signatures, by the type of the key. RSA signatures pad a named digest to the length of the
modulus; DSA and its elliptic form sign a number and encode a pair; Edwards curves sign the data
themselves and take no digest. Nonces follow from the key, the data and the state of the random
source.
-/

set_option autoImplicit false

namespace CryptoProvider.Key.Signature

open Encoding Arithmetic Curve

def namedValue (d : Digest) (data : Bytes) : Bytes :=
  Der.sequence
    [Der.sequence [Der.objectIdentifier d.identifier, Der.null], Der.octetString (d.hash data)]

-- The padded digest as long as a modulus; `none` if the modulus has no room for it.
def paddedValue? (d : Digest) (width : Nat) (data : Bytes) : Option Bytes :=
  let value := namedValue d data
  if width < value.length + 11 then none
  else some (0x00 :: 0x01 :: List.replicate (width - value.length - 3) 0xff ++ 0x00 :: value)

def signRsa (d : Digest) (modulus secret : Nat) (data : Bytes) : Option Bytes :=
  let width := Bytes.widthOf modulus
  (paddedValue? d width data).map fun padded =>
    Bytes.bigEndian width (powMod (Bytes.toNat padded) secret modulus)

def verifyRsa (d : Digest) (modulus exponent : Nat) (data signature : Bytes) : Bool :=
  let width := Bytes.widthOf modulus
  let value := Bytes.toNat signature
  if signature.length ≠ width ∨ modulus ≤ value then false
  else some (Bytes.bigEndian width (powMod value exponent modulus)) == paddedValue? d width data

def leftmost (order : Nat) (value : Bytes) : Nat :=
  Bytes.toNat value >>> (8 * value.length - bitLength order)

def nonces (order secret seed : Nat) (value : Bytes) : List Nat :=
  let width := Bytes.widthOf order
  (List.range 64).map fun attempt =>
    let origin := Bytes.bigEndian width secret ++ Bytes.bigEndian 8 seed ++ value
    let expanded := (List.range (width / 32 + 2)).flatMap fun block =>
      Digest.sha256.hash (UInt8.ofNat block :: origin ++ [UInt8.ofNat attempt])
    Bytes.toNat expanded % (order - 1) + 1

-- The pair made with one nonce, given the number that the nonce commits to.
def pair? (order secret number nonce commitment : Nat) : Option (Nat × Nat) :=
  let r := commitment % order
  let s := inverse nonce order * ((number + r * secret) % order) % order
  if r = 0 ∨ s = 0 then none else some (r, s)

def encodePair (pair : Nat × Nat) : Bytes :=
  Der.sequence [Der.integer pair.1, Der.integer pair.2]

def decodePair? (bytes : Bytes) : Option (Nat × Nat) := do
  let content ← Der.readWhole? 0x30 bytes
  let [r, s] ← Der.readIntegers? 2 content | none
  return (r, s)

def signPair (order secret seed : Nat) (commit : Nat → Nat) (value : Bytes) : Option Bytes :=
  let number := leftmost order value
  let found := (nonces order secret seed value).findSome? fun nonce =>
    pair? order secret number nonce (commit nonce)
  found.map encodePair

-- Checks a pair; `recover` recomputes the commitment from two factors. An empty signature is not
-- good, and any other that is not the encoding of a pair is refused.
def verifyPair (order : Nat) (recover : Nat → Nat → Nat) (value signature : Bytes) : Option Bool :=
  if signature.isEmpty then some false
  else (decodePair? signature).map fun (r, s) =>
    if r = 0 ∨ s = 0 ∨ order ≤ r ∨ order ≤ s then false
    else
      let number := leftmost order value
      let w := inverse s order
      recover (number * w % order) (r * w % order) % order == r

def curveCommitment (c : Weierstrass) (nonce : Nat) : Nat :=
  ((c.multiply nonce c.generator).map Prod.fst).getD 0

-- The commitment that two factors give back; the order itself, as no commitment, at infinity.
def recoverOnCurve (c : Weierstrass) (x y : Nat) (first second : Nat) : Nat :=
  match c.add (c.multiply first c.generator) (c.multiply second (some (x, y))) with
  | some (x, _) => x
  | none => c.order

-- The sizes of a DSA subgroup order that signatures are checked for.
def dsaOrderSizes : List Nat := [160, 224, 256]

-- Signs; the key's own digest is SHA-256 where none is given and one is needed.
def sign (key : Private) (digest : Option Digest) (data : Bytes) (seed : Nat) : Option Bytes :=
  let d := digest.getD Digest.sha256
  match key with
  | .rsa n _ secret _ _ => signRsa d n secret data
  | .ec curve secret =>
    let c := Weierstrass.named curve
    signPair c.order secret seed (curveCommitment c) (d.hash data)
  | .dsa p q g secret => signPair q secret seed (fun nonce => powMod g nonce p) (d.hash data)
  | .edwards curve secret =>
    match digest with
    | some _ => none
    | none => some ((Edwards.named curve).sign (Edwards.tag curve) secret data)
  | .dh .. | .x25519 _ => none

-- Checks a signature; `none` where the key cannot be used or a pair is malformed.
def verify (key : Public) (digest : Option Digest) (data signature : Bytes) : Option Bool :=
  let d := digest.getD Digest.sha256
  match key with
  | .rsa n e => some (verifyRsa d n e data signature)
  | .ec curve x y =>
    let c := Weierstrass.named curve
    verifyPair c.order (recoverOnCurve c x y) (d.hash data) signature
  | .dsa p q g y =>
    let recover (first second : Nat) := powMod g first p * powMod y second p % p
    if bitLength q ∈ dsaOrderSizes ∨ signature.isEmpty then
      verifyPair q recover (d.hash data) signature
    else none
  | .edwards curve point =>
    match digest with
    | some _ => none
    | none => some ((Edwards.named curve).verify (Edwards.tag curve) point data signature)
  | .dh .. | .x25519 _ => none

end CryptoProvider.Key.Signature
