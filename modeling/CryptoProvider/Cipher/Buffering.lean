import CryptoProvider.Cipher.Mode

/-!
The two calls by which a text goes through a cipher into a buffer. The first takes all of the data
and writes what it can; it keeps back what does not fill a block and, if padding is to be taken off,
the last block. The second writes the rest, or refuses.
-/

set_option autoImplicit false

namespace CryptoProvider.Cipher

inductive Direction where
  | encrypt
  | decrypt
  deriving DecidableEq, Repr

namespace Direction

def run : Direction → BlockCipher → CipherMode → (iv data : Bytes) → Bytes
  | encrypt => transform
  | decrypt => inverseTransform

/-- The vector with which a mode goes on after a text: its last block, if blocks are chained. -/
def carry (c : BlockCipher) (mode : CipherMode) (iv text : Bytes) : Bytes :=
  if mode = .cbc ∧ text ≠ [] then text.drop (text.length - c.blockSize) else iv

/-- The vector after some data, which may be the text or have become it. -/
def resume (direction : Direction) (c : BlockCipher) (mode : CipherMode) (iv data : Bytes) :
    Bytes :=
  match direction with
  | encrypt => carry c mode iv (transform c mode iv data)
  | decrypt => carry c mode iv data

/-- How many bytes the first call keeps back. -/
def withheld (direction : Direction) (c : BlockCipher) (mode : CipherMode) (data : Bytes)
    (padding : Bool) : Nat :=
  if mode = .ctr then 0
  else if direction = .decrypt ∧ padding ∧ data.length % c.blockSize = 0 then
    min c.blockSize data.length
  else data.length % c.blockSize

def passed (direction : Direction) (c : BlockCipher) (mode : CipherMode) (data : Bytes)
    (padding : Bool) : Bytes :=
  data.take (data.length - direction.withheld c mode data padding)

def rest (direction : Direction) (c : BlockCipher) (mode : CipherMode) (data : Bytes)
    (padding : Bool) : Bytes :=
  data.drop (data.length - direction.withheld c mode data padding)

/-- What the first call writes. -/
def update (direction : Direction) (c : BlockCipher) (mode : CipherMode) (iv data : Bytes)
    (padding : Bool) : Bytes :=
  direction.run c mode iv (direction.passed c mode data padding)

/-- What the second call writes; `none` if it refuses. -/
def finish (direction : Direction) (c : BlockCipher) (mode : CipherMode) (iv data : Bytes)
    (padding : Bool) : Option Bytes :=
  let rest := direction.rest c mode data padding
  let vector := direction.resume c mode iv (direction.passed c mode data padding)
  if mode = .ctr then some []
  else match direction, padding with
    | encrypt, true => some (transform c mode vector (pad c.blockSize rest))
    | decrypt, true =>
      if rest.length = c.blockSize then unpad? c.blockSize (inverseTransform c mode vector rest)
      else none
    | _, false => if rest = [] then some [] else none

/-- Both calls, one behind the other in a buffer of so many bytes, and what they wrote to it. -/
def through (direction : Direction) (c : BlockCipher) (mode : CipherMode) (iv data : Bytes)
    (padding : Bool) (room : Nat) : Option Bytes := do
  let first := direction.update c mode iv data padding
  let out := Bytes.overwrite (List.replicate room 0) first
  let last ← direction.finish c mode iv data padding
  let out := out.take first.length ++ Bytes.overwrite (out.drop first.length) last
  return out.take (first.length + last.length)

end Direction

end CryptoProvider.Cipher
