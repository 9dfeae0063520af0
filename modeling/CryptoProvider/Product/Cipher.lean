import CryptoProvider.Cipher.Buffering
import CryptoProvider.Error

/-!
Block cipher products. The key length is looked at first, then the mode, then the initialization
vector; only then do the data matter. They go through the cipher by two calls and one buffer, which
has room for as many bytes and the least that the cipher puts out at once.
-/

set_option autoImplicit false

namespace CryptoProvider.Product

inductive Cipher where
  | aes
  | des
  | tripleDes
  deriving DecidableEq, Repr

namespace Cipher

open CryptoProvider.Cipher (Direction)

def kind : Cipher → CipherKind
  | aes => .aes
  | des => .des
  | tripleDes => .tripleDes

def blockSize : Cipher → Nat
  | aes => 16
  | des | tripleDes => 8

def keySizes : Cipher → List Nat
  | aes => [16, 24, 32]
  | des => [8]
  | tripleDes => [16, 24]

/-- A key of two parts is used with its first part as the third. -/
def expandKey (key : Bytes) : Bytes :=
  if key.length = 16 then key ++ key.take 8 else key

def underKey (product : Cipher) (ciphers : CipherSuite) (key : Bytes) : BlockCipher :=
  match product with
  | aes => ciphers.aes key
  | des => ciphers.des key
  | tripleDes => ciphers.tripleDes (expandKey key)

def choose (product : Cipher) (ciphers : CipherSuite) (mode : CipherMode) (key : Bytes) :
    Except Error BlockCipher :=
  if key.length ∉ product.keySizes then
    .error (.invalidParameter (.keySize product.kind.label key.length))
  else if mode = .ctr ∧ product ≠ aes then
    .error (.invalidParameter (.modeNotSupported product.kind mode))
  else .ok (product.underKey ciphers key)

/-- The initialization vector that a mode uses, of one block; the first mode uses none. -/
def vector (product : Cipher) (mode : CipherMode) (iv : Option Bytes) : Except Error Bytes :=
  match mode, iv with
  | .ecb, _ => .ok []
  | _, none => .error (.invalidParameter .ivMissing)
  | _, some iv =>
    if iv.length = product.blockSize then .ok iv
    else .error (.invalidParameter (.ivSize product.blockSize iv.length))

def answered (result : Option Bytes) : Except Error Bytes :=
  match result with
  | some bytes => .ok bytes
  | none => .error .cryptoLibrary

/-- The least that a cipher in a mode puts out at once. -/
def granule (product : Cipher) (mode : CipherMode) : Nat :=
  if mode = .ctr then 1 else product.blockSize

/-- Both calls fit a buffer: the first leaves room for what the second may write. -/
structure Fits (room granule : Nat) (first : Bytes) (second : Option Bytes) : Prop where
  leaves : first.length + granule ≤ room
  fills : ∀ last ∈ second, last.length ≤ granule

def run (product : Cipher) (direction : Direction) (cipher : BlockCipher) (mode : CipherMode)
    (iv data : Bytes) (padding : Bool) : Option Bytes :=
  direction.through cipher mode iv data padding (data.length + product.granule mode)

def encrypt (product : Cipher) (ciphers : CipherSuite) (mode : CipherMode) (key : Bytes)
    (iv : Option Bytes) (data : Bytes) (padding : Bool) : Except Error Bytes := do
  let cipher ← product.choose ciphers mode key
  let iv ← product.vector mode iv
  answered (product.run .encrypt cipher mode iv data padding)

def decrypt (product : Cipher) (ciphers : CipherSuite) (mode : CipherMode) (key : Bytes)
    (iv : Option Bytes) (data : Bytes) (padding : Bool) : Except Error Bytes := do
  let cipher ← product.choose ciphers mode key
  let iv ← product.vector mode iv
  answered (product.run .decrypt cipher mode iv data padding)

end Cipher

end CryptoProvider.Product
