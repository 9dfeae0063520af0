import CryptoProvider.Digest.Basic

/-! SHA-256 and SHA-224: sixty-four rounds on eight 32-bit words. -/

set_option autoImplicit false

namespace CryptoProvider.Digest

namespace Sha256

structure Words where
  a : UInt32
  b : UInt32
  c : UInt32
  d : UInt32
  e : UInt32
  f : UInt32
  g : UInt32
  h : UInt32
  deriving DecidableEq, Repr

def rotate (word : UInt32) (amount : UInt32) : UInt32 :=
  word >>> amount ||| word <<< (32 - amount)

def wordsOf (bytes : Bytes) : List UInt32 :=
  (Bytes.chunks 4 bytes).map fun piece => UInt32.ofNat (Bytes.toNat piece)

def bytesOf (word : UInt32) : Bytes :=
  Bytes.bigEndian 4 word.toNat

-- Reads eight words; anything else reads as zeros.
def Words.ofBytes (bytes : Bytes) : Words :=
  match wordsOf bytes with
  | [a, b, c, d, e, f, g, h] => ⟨a, b, c, d, e, f, g, h⟩
  | _ => ⟨0, 0, 0, 0, 0, 0, 0, 0⟩

def Words.toBytes (w : Words) : Bytes :=
  bytesOf w.a ++ bytesOf w.b ++ bytesOf w.c ++ bytesOf w.d ++
    bytesOf w.e ++ bytesOf w.f ++ bytesOf w.g ++ bytesOf w.h

def Words.add (v w : Words) : Words :=
  ⟨v.a + w.a, v.b + w.b, v.c + w.c, v.d + w.d, v.e + w.e, v.f + w.f, v.g + w.g, v.h + w.h⟩

-- The round constants: fractional parts of the cube roots of the first sixty-four primes.
def constants : List UInt32 :=
  [0x428a2f98, 0x71374491, 0xb5c0fbcf, 0xe9b5dba5, 0x3956c25b, 0x59f111f1,
    0x923f82a4, 0xab1c5ed5, 0xd807aa98, 0x12835b01, 0x243185be, 0x550c7dc3,
    0x72be5d74, 0x80deb1fe, 0x9bdc06a7, 0xc19bf174, 0xe49b69c1, 0xefbe4786,
    0x0fc19dc6, 0x240ca1cc, 0x2de92c6f, 0x4a7484aa, 0x5cb0a9dc, 0x76f988da,
    0x983e5152, 0xa831c66d, 0xb00327c8, 0xbf597fc7, 0xc6e00bf3, 0xd5a79147,
    0x06ca6351, 0x14292967, 0x27b70a85, 0x2e1b2138, 0x4d2c6dfc, 0x53380d13,
    0x650a7354, 0x766a0abb, 0x81c2c92e, 0x92722c85, 0xa2bfe8a1, 0xa81a664b,
    0xc24b8b70, 0xc76c51a3, 0xd192e819, 0xd6990624, 0xf40e3585, 0x106aa070,
    0x19a4c116, 0x1e376c08, 0x2748774c, 0x34b0bcb5, 0x391c0cb3, 0x4ed8aa4a,
    0x5b9cca4f, 0x682e6ff3, 0x748f82ee, 0x78a5636f, 0x84c87814, 0x8cc70208,
    0x90befffa, 0xa4506ceb, 0xbef9a3f7, 0xc67178f2]

def nextWord (schedule : Array UInt32) : UInt32 :=
  let n := schedule.size
  let x := schedule.getD (n - 15) 0
  let y := schedule.getD (n - 2) 0
  let small := rotate x 7 ^^^ rotate x 18 ^^^ x >>> 3
  let large := rotate y 17 ^^^ rotate y 19 ^^^ y >>> 10
  schedule.getD (n - 16) 0 + small + schedule.getD (n - 7) 0 + large

def extend : (count : Nat) → Array UInt32 → Array UInt32
  | 0, schedule => schedule
  | count + 1, schedule => extend count (schedule.push (nextWord schedule))

def round (w : Words) (input : UInt32 × UInt32) : Words :=
  let sum := rotate w.e 6 ^^^ rotate w.e 11 ^^^ rotate w.e 25
  let choice := (w.e &&& w.f) ^^^ ((w.e ^^^ 0xffffffff) &&& w.g)
  let first := w.h + sum + choice + input.1 + input.2
  let sum := rotate w.a 2 ^^^ rotate w.a 13 ^^^ rotate w.a 22
  let majority := (w.a &&& w.b) ^^^ (w.a &&& w.c) ^^^ (w.b &&& w.c)
  ⟨first + (sum + majority), w.a, w.b, w.c, w.d + first, w.e, w.f, w.g⟩

def compress (chain block : Bytes) : Bytes :=
  let w := Words.ofBytes chain
  let schedule := extend 48 (wordsOf block).toArray
  ((constants.zip schedule.toList).foldl round w).add w |>.toBytes

@[simp] theorem length_toBytes (w : Words) : w.toBytes.length = 32 := by
  simp [Words.toBytes, bytesOf]

theorem length_compress (chain block : Bytes) : (compress chain block).length = 32 := by
  simp [compress]

def start256 : Words :=
  ⟨0x6a09e667, 0xbb67ae85, 0x3c6ef372, 0xa54ff53a,
    0x510e527f, 0x9b05688c, 0x1f83d9ab, 0x5be0cd19⟩

def start224 : Words :=
  ⟨0xc1059ed8, 0x367cd507, 0x3070dd17, 0xf70e5939,
    0xffc00b31, 0x68581511, 0x64f98fa7, 0xbefa4fa4⟩

end Sha256

def sha256 : Digest where
  name := "SHA256"
  identifier := [0x60, 0x86, 0x48, 0x01, 0x65, 0x03, 0x04, 0x02, 0x01]
  blockSize := 64
  size := 32
  start := Sha256.start256.toBytes
  compress := Sha256.compress
  lengthField := Bytes.bigEndian 8
  size_le_start := by simp
  size_le_compress := by simp [Sha256.length_compress]

-- SHA-224: the same rounds from other initial words, cut to twenty-eight bytes.
def sha224 : Digest where
  name := "SHA224"
  identifier := [0x60, 0x86, 0x48, 0x01, 0x65, 0x03, 0x04, 0x02, 0x04]
  blockSize := 64
  size := 28
  start := Sha256.start224.toBytes
  compress := Sha256.compress
  lengthField := Bytes.bigEndian 8
  size_le_start := by simp
  size_le_compress := by simp [Sha256.length_compress]

end CryptoProvider.Digest
