import CryptoProvider.Cipher.Block
import CryptoProvider.Cipher.Padding

/-!
Modes of operation over a block cipher. `encrypt?` and `decrypt?` refuse data that do not fill whole
blocks where the mode needs them; `decrypt?` also refuses bad padding.
-/

set_option autoImplicit false

namespace CryptoProvider.Cipher

def chainEncrypt (c : BlockCipher) : (previous : Bytes) → List Bytes → Bytes
  | _, [] => []
  | previous, block :: rest =>
    let encrypted := c.encrypt (Bytes.xor block previous)
    encrypted ++ chainEncrypt c encrypted rest

def chainDecrypt (c : BlockCipher) : (previous : Bytes) → List Bytes → Bytes
  | _, [] => []
  | previous, block :: rest =>
    Bytes.xor (c.decrypt block) previous ++ chainDecrypt c block rest

-- Mixes blocks, the last maybe short, with the encrypted counter and its successors.
def counterStream (c : BlockCipher) : (counter : Nat) → List Bytes → Bytes
  | _, [] => []
  | counter, block :: rest =>
    Bytes.xor block (c.encrypt (Bytes.bigEndian c.blockSize counter)) ++
      counterStream c (counter + 1) rest

-- Encrypts whole blocks, or in counter mode any data.
def transform (c : BlockCipher) (mode : CipherMode) (iv data : Bytes) : Bytes :=
  let blocks := Bytes.chunks c.blockSize data
  match mode with
  | .ecb => blocks.flatMap c.encrypt
  | .cbc => chainEncrypt c iv blocks
  | .ctr => counterStream c (Bytes.toNat iv) blocks

def inverseTransform (c : BlockCipher) (mode : CipherMode) (iv data : Bytes) : Bytes :=
  let blocks := Bytes.chunks c.blockSize data
  match mode with
  | .ecb => blocks.flatMap c.decrypt
  | .cbc => chainDecrypt c iv blocks
  | .ctr => counterStream c (Bytes.toNat iv) blocks

-- Encrypts; `none` if the data do not fill whole blocks and are not padded.
def encrypt? (c : BlockCipher) (mode : CipherMode) (iv data : Bytes) (padding : Bool) :
    Option Bytes :=
  if mode = .ctr then some (transform c mode iv data)
  else if padding then some (transform c mode iv (pad c.blockSize data))
  else if data.length % c.blockSize = 0 then some (transform c mode iv data)
  else none

-- Decrypts; `none` if the data do not fill whole blocks or lack the padding asked for.
def decrypt? (c : BlockCipher) (mode : CipherMode) (iv data : Bytes) (padding : Bool) :
    Option Bytes :=
  if mode = .ctr then some (inverseTransform c mode iv data)
  else if data.length % c.blockSize ≠ 0 then none
  else if padding then unpad? c.blockSize (inverseTransform c mode iv data)
  else some (inverseTransform c mode iv data)

end CryptoProvider.Cipher
