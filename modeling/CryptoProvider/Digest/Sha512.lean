import CryptoProvider.Digest.Basic

/-! SHA-512 and SHA-384: eighty rounds on eight 64-bit words. -/

set_option autoImplicit false

namespace CryptoProvider.Digest

namespace Sha512

structure Words where
  a : UInt64
  b : UInt64
  c : UInt64
  d : UInt64
  e : UInt64
  f : UInt64
  g : UInt64
  h : UInt64
  deriving DecidableEq, Repr

def rotate (word : UInt64) (amount : UInt64) : UInt64 :=
  word >>> amount ||| word <<< (64 - amount)

def wordsOf (bytes : Bytes) : List UInt64 :=
  (Bytes.chunks 8 bytes).map fun piece => UInt64.ofNat (Bytes.toNat piece)

def bytesOf (word : UInt64) : Bytes :=
  Bytes.bigEndian 8 word.toNat

-- Reads eight words; anything else reads as zeros.
def Words.ofBytes (bytes : Bytes) : Words :=
  match wordsOf bytes with
  | [a, b, c, d, e, f, g, h] => ⟨a, b, c, d, e, f, g, h⟩
  | _ => ⟨0, 0, 0, 0, 0, 0, 0, 0⟩

def Words.toBytes (w : Words) : Bytes :=
  bytesOf w.a ++ bytesOf w.b ++ bytesOf w.c ++ bytesOf w.d ++
    bytesOf w.e ++ bytesOf w.f ++ bytesOf w.g ++ bytesOf w.h

def Words.add (v w : Words) : Words :=
  ⟨v.a + w.a, v.b + w.b, v.c + w.c, v.d + w.d, v.e + w.e, v.f + w.f, v.g + w.g, v.h + w.h⟩

-- The round constants: fractional parts of the cube roots of the first eighty primes.
def constants : List UInt64 :=
  [0x428a2f98d728ae22, 0x7137449123ef65cd, 0xb5c0fbcfec4d3b2f, 0xe9b5dba58189dbbc,
    0x3956c25bf348b538, 0x59f111f1b605d019, 0x923f82a4af194f9b, 0xab1c5ed5da6d8118,
    0xd807aa98a3030242, 0x12835b0145706fbe, 0x243185be4ee4b28c, 0x550c7dc3d5ffb4e2,
    0x72be5d74f27b896f, 0x80deb1fe3b1696b1, 0x9bdc06a725c71235, 0xc19bf174cf692694,
    0xe49b69c19ef14ad2, 0xefbe4786384f25e3, 0x0fc19dc68b8cd5b5, 0x240ca1cc77ac9c65,
    0x2de92c6f592b0275, 0x4a7484aa6ea6e483, 0x5cb0a9dcbd41fbd4, 0x76f988da831153b5,
    0x983e5152ee66dfab, 0xa831c66d2db43210, 0xb00327c898fb213f, 0xbf597fc7beef0ee4,
    0xc6e00bf33da88fc2, 0xd5a79147930aa725, 0x06ca6351e003826f, 0x142929670a0e6e70,
    0x27b70a8546d22ffc, 0x2e1b21385c26c926, 0x4d2c6dfc5ac42aed, 0x53380d139d95b3df,
    0x650a73548baf63de, 0x766a0abb3c77b2a8, 0x81c2c92e47edaee6, 0x92722c851482353b,
    0xa2bfe8a14cf10364, 0xa81a664bbc423001, 0xc24b8b70d0f89791, 0xc76c51a30654be30,
    0xd192e819d6ef5218, 0xd69906245565a910, 0xf40e35855771202a, 0x106aa07032bbd1b8,
    0x19a4c116b8d2d0c8, 0x1e376c085141ab53, 0x2748774cdf8eeb99, 0x34b0bcb5e19b48a8,
    0x391c0cb3c5c95a63, 0x4ed8aa4ae3418acb, 0x5b9cca4f7763e373, 0x682e6ff3d6b2b8a3,
    0x748f82ee5defb2fc, 0x78a5636f43172f60, 0x84c87814a1f0ab72, 0x8cc702081a6439ec,
    0x90befffa23631e28, 0xa4506cebde82bde9, 0xbef9a3f7b2c67915, 0xc67178f2e372532b,
    0xca273eceea26619c, 0xd186b8c721c0c207, 0xeada7dd6cde0eb1e, 0xf57d4f7fee6ed178,
    0x06f067aa72176fba, 0x0a637dc5a2c898a6, 0x113f9804bef90dae, 0x1b710b35131c471b,
    0x28db77f523047d84, 0x32caab7b40c72493, 0x3c9ebe0a15c9bebc, 0x431d67c49c100d4c,
    0x4cc5d4becb3e42b6, 0x597f299cfc657e2a, 0x5fcb6fab3ad6faec, 0x6c44198c4a475817]

def nextWord (schedule : Array UInt64) : UInt64 :=
  let n := schedule.size
  let x := schedule.getD (n - 15) 0
  let y := schedule.getD (n - 2) 0
  let small := rotate x 1 ^^^ rotate x 8 ^^^ x >>> 7
  let large := rotate y 19 ^^^ rotate y 61 ^^^ y >>> 6
  schedule.getD (n - 16) 0 + small + schedule.getD (n - 7) 0 + large

def extend : (count : Nat) → Array UInt64 → Array UInt64
  | 0, schedule => schedule
  | count + 1, schedule => extend count (schedule.push (nextWord schedule))

def round (w : Words) (input : UInt64 × UInt64) : Words :=
  let sum := rotate w.e 14 ^^^ rotate w.e 18 ^^^ rotate w.e 41
  let choice := (w.e &&& w.f) ^^^ ((w.e ^^^ 0xffffffffffffffff) &&& w.g)
  let first := w.h + sum + choice + input.1 + input.2
  let sum := rotate w.a 28 ^^^ rotate w.a 34 ^^^ rotate w.a 39
  let majority := (w.a &&& w.b) ^^^ (w.a &&& w.c) ^^^ (w.b &&& w.c)
  ⟨first + (sum + majority), w.a, w.b, w.c, w.d + first, w.e, w.f, w.g⟩

def compress (chain block : Bytes) : Bytes :=
  let w := Words.ofBytes chain
  let schedule := extend 64 (wordsOf block).toArray
  ((constants.zip schedule.toList).foldl round w).add w |>.toBytes

@[simp] theorem length_toBytes (w : Words) : w.toBytes.length = 64 := by
  simp [Words.toBytes, bytesOf]

theorem length_compress (chain block : Bytes) : (compress chain block).length = 64 := by
  simp [compress]

def start512 : Words :=
  ⟨0x6a09e667f3bcc908, 0xbb67ae8584caa73b, 0x3c6ef372fe94f82b, 0xa54ff53a5f1d36f1,
    0x510e527fade682d1, 0x9b05688c2b3e6c1f, 0x1f83d9abfb41bd6b, 0x5be0cd19137e2179⟩

def start384 : Words :=
  ⟨0xcbbb9d5dc1059ed8, 0x629a292a367cd507, 0x9159015a3070dd17, 0x152fecd8f70e5939,
    0x67332667ffc00b31, 0x8eb44a8768581511, 0xdb0c2e0d64f98fa7, 0x47b5481dbefa4fa4⟩

end Sha512

def sha512 : Digest where
  name := "SHA512"
  identifier := [0x60, 0x86, 0x48, 0x01, 0x65, 0x03, 0x04, 0x02, 0x03]
  blockSize := 128
  size := 64
  start := Sha512.start512.toBytes
  compress := Sha512.compress
  lengthField := Bytes.bigEndian 16
  size_le_start := by simp
  size_le_compress := by simp [Sha512.length_compress]

-- SHA-384: the same rounds from other initial words, cut to forty-eight bytes.
def sha384 : Digest where
  name := "SHA384"
  identifier := [0x60, 0x86, 0x48, 0x01, 0x65, 0x03, 0x04, 0x02, 0x02]
  blockSize := 128
  size := 48
  start := Sha512.start384.toBytes
  compress := Sha512.compress
  lengthField := Bytes.bigEndian 16
  size_le_start := by simp
  size_le_compress := by simp [Sha512.length_compress]

end CryptoProvider.Digest
