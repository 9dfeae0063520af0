import CryptoProvider.Digest.Basic

/-! SHA-1: eighty rounds on five 32-bit words. -/

set_option autoImplicit false

namespace CryptoProvider.Digest

namespace Sha1

structure Words where
  a : UInt32
  b : UInt32
  c : UInt32
  d : UInt32
  e : UInt32
  deriving DecidableEq, Repr

def rotate (word : UInt32) (amount : UInt32) : UInt32 :=
  word <<< amount ||| word >>> (32 - amount)

def wordsOf (bytes : Bytes) : List UInt32 :=
  (Bytes.chunks 4 bytes).map fun piece => UInt32.ofNat (Bytes.toNat piece)

def bytesOf (word : UInt32) : Bytes :=
  Bytes.bigEndian 4 word.toNat

-- Reads five words; anything else reads as zeros.
def Words.ofBytes (bytes : Bytes) : Words :=
  match wordsOf bytes with
  | [a, b, c, d, e] => ⟨a, b, c, d, e⟩
  | _ => ⟨0, 0, 0, 0, 0⟩

def Words.toBytes (w : Words) : Bytes :=
  bytesOf w.a ++ bytesOf w.b ++ bytesOf w.c ++ bytesOf w.d ++ bytesOf w.e

def Words.add (v w : Words) : Words :=
  ⟨v.a + w.a, v.b + w.b, v.c + w.c, v.d + w.d, v.e + w.e⟩

def nextWord (schedule : Array UInt32) : UInt32 :=
  let n := schedule.size
  rotate (schedule.getD (n - 3) 0 ^^^ schedule.getD (n - 8) 0 ^^^ schedule.getD (n - 14) 0 ^^^
    schedule.getD (n - 16) 0) 1

def extend : (count : Nat) → Array UInt32 → Array UInt32
  | 0, schedule => schedule
  | count + 1, schedule => extend count (schedule.push (nextWord schedule))

-- The mixing function and constant of a round.
def mixing (index : Nat) (b c d : UInt32) : UInt32 × UInt32 :=
  if index < 20 then ((b &&& c) ||| ((b ^^^ 0xffffffff) &&& d), 0x5a827999)
  else if index < 40 then (b ^^^ c ^^^ d, 0x6ed9eba1)
  else if index < 60 then ((b &&& c) ||| (b &&& d) ||| (c &&& d), 0x8f1bbcdc)
  else (b ^^^ c ^^^ d, 0xca62c1d6)

def round (w : Words) (input : UInt32 × Nat) : Words :=
  let mixed := mixing input.2 w.b w.c w.d
  ⟨rotate w.a 5 + mixed.1 + w.e + mixed.2 + input.1, w.a, rotate w.b 30, w.c, w.d⟩

def compress (chain block : Bytes) : Bytes :=
  let w := Words.ofBytes chain
  let schedule := extend 64 (wordsOf block).toArray
  (schedule.toList.zipIdx.foldl round w).add w |>.toBytes

@[simp] theorem length_toBytes (w : Words) : w.toBytes.length = 20 := by
  simp [Words.toBytes, bytesOf]

theorem length_compress (chain block : Bytes) : (compress chain block).length = 20 := by
  simp [compress]

def start : Words :=
  ⟨0x67452301, 0xefcdab89, 0x98badcfe, 0x10325476, 0xc3d2e1f0⟩

end Sha1

def sha1 : Digest where
  name := "SHA1"
  identifier := [0x2b, 0x0e, 0x03, 0x02, 0x1a]
  blockSize := 64
  size := 20
  start := Sha1.start.toBytes
  compress := Sha1.compress
  lengthField := Bytes.bigEndian 8
  size_le_start := by simp
  size_le_compress := by simp [Sha1.length_compress]

end CryptoProvider.Digest
