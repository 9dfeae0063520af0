import CryptoProvider.Digest.Basic
import CryptoProvider.Error

/-!
Asymmetric keys as numbers and byte strings, and what a library of key operations offers. A library
answers `none` where it refuses.
-/

set_option autoImplicit false

namespace CryptoProvider.Key

inductive CurveName where
  | secp224r1
  | prime256v1
  | secp256k1
  | secp384r1
  | secp521r1
  deriving DecidableEq, Repr

inductive EdwardsName where
  | ed25519
  | ed448
  deriving DecidableEq, Repr

inductive Public where
  | rsa (modulus exponent : Nat)
  | ec (curve : CurveName) (x y : Nat)
  | dsa (p q g y : Nat)
  /-- Group parameters, with the subgroup order where it is known, and a group element. -/
  | dh (p g : Nat) (q : Option Nat) (y : Nat)
  | edwards (curve : EdwardsName) (point : Bytes)
  | x25519 (point : Bytes)
  deriving DecidableEq, Repr

inductive Private where
  | rsa (modulus exponent secret p q : Nat)
  | ec (curve : CurveName) (secret : Nat)
  | dsa (p q g secret : Nat)
  | dh (p g : Nat) (q : Option Nat) (secret : Nat)
  | edwards (curve : EdwardsName) (seed : Bytes)
  | x25519 (seed : Bytes)
  deriving DecidableEq, Repr

inductive Request where
  | rsa (bits : Nat)
  | dsa (bits : Nat)
  | dh (bits : Nat)
  /-- Agreement in the standard group of 2048 bits with a subgroup of 256 bits. -/
  | dhStandard
  | ec (curve : CurveName)
  | edwards (curve : EdwardsName)
  deriving DecidableEq, Repr

/-- Operations on keys. Where no digest is given, the key's own default is meant. -/
structure Library where
  /-- A signature; the nonce, if there is one, is determined by the state of the random source. -/
  sign : (key : Private) → (digest : Option Digest) → (data : Bytes) → (seed : Nat) → Option Bytes
  verify : (key : Public) → (digest : Option Digest) → (data signature : Bytes) → Option Bool
  agree : (key : Private) → (peer : Public) → Option Bytes
  encodePublic : (key : Private) → Option Bytes
  decodePublic : (encoded : Bytes) → Option Public
  /-- A fresh key, determined by the state of the random source. -/
  generate : (request : Request) → (seed : Nat) → Option Private

def Library.publicHalf (library : Library) (key : Private) : Option Public :=
  (library.encodePublic key).bind library.decodePublic

end CryptoProvider.Key
