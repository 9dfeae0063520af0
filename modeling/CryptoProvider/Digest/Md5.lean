import CryptoProvider.Digest.Basic

/-! MD5: sixty-four rounds on four 32-bit words, least significant byte first. -/

set_option autoImplicit false

namespace CryptoProvider.Digest

namespace Md5

structure Words where
  a : UInt32
  b : UInt32
  c : UInt32
  d : UInt32
  deriving DecidableEq, Repr

def rotate (word : UInt32) (amount : UInt32) : UInt32 :=
  word <<< amount ||| word >>> (32 - amount)

def wordsOf (bytes : Bytes) : List UInt32 :=
  (Bytes.chunks 4 bytes).map fun piece => UInt32.ofNat (Bytes.toNatLittle piece)

def bytesOf (word : UInt32) : Bytes :=
  Bytes.littleEndian 4 word.toNat

-- Reads four words; anything else reads as zeros.
def Words.ofBytes (bytes : Bytes) : Words :=
  match wordsOf bytes with
  | [a, b, c, d] => ⟨a, b, c, d⟩
  | _ => ⟨0, 0, 0, 0⟩

def Words.toBytes (w : Words) : Bytes :=
  bytesOf w.a ++ bytesOf w.b ++ bytesOf w.c ++ bytesOf w.d

def Words.add (v w : Words) : Words :=
  ⟨v.a + w.a, v.b + w.b, v.c + w.c, v.d + w.d⟩

-- The round constants: the integer parts of 2^32 times the sine of the round's number.
def constants : List UInt32 :=
  [0xd76aa478, 0xe8c7b756, 0x242070db, 0xc1bdceee, 0xf57c0faf, 0x4787c62a,
    0xa8304613, 0xfd469501, 0x698098d8, 0x8b44f7af, 0xffff5bb1, 0x895cd7be,
    0x6b901122, 0xfd987193, 0xa679438e, 0x49b40821, 0xf61e2562, 0xc040b340,
    0x265e5a51, 0xe9b6c7aa, 0xd62f105d, 0x02441453, 0xd8a1e681, 0xe7d3fbc8,
    0x21e1cde6, 0xc33707d6, 0xf4d50d87, 0x455a14ed, 0xa9e3e905, 0xfcefa3f8,
    0x676f02d9, 0x8d2a4c8a, 0xfffa3942, 0x8771f681, 0x6d9d6122, 0xfde5380c,
    0xa4beea44, 0x4bdecfa9, 0xf6bb4b60, 0xbebfbc70, 0x289b7ec6, 0xeaa127fa,
    0xd4ef3085, 0x04881d05, 0xd9d4d039, 0xe6db99e5, 0x1fa27cf8, 0xc4ac5665,
    0xf4292244, 0x432aff97, 0xab9423a7, 0xfc93a039, 0x655b59c3, 0x8f0ccc92,
    0xffeff47d, 0x85845dd1, 0x6fa87e4f, 0xfe2ce6e0, 0xa3014314, 0x4e0811a1,
    0xf7537e82, 0xbd3af235, 0x2ad7d2bb, 0xeb86d391]

def amounts : Array UInt32 :=
  #[7, 12, 17, 22, 5, 9, 14, 20, 4, 11, 16, 23, 6, 10, 15, 21]

-- The mixing function of a round and the place of the message word it takes.
def mixing (index : Nat) (b c d : UInt32) : UInt32 × Nat :=
  if index < 16 then ((b &&& c) ||| ((b ^^^ 0xffffffff) &&& d), index)
  else if index < 32 then ((d &&& b) ||| ((d ^^^ 0xffffffff) &&& c), (5 * index + 1) % 16)
  else if index < 48 then (b ^^^ c ^^^ d, (3 * index + 5) % 16)
  else (c ^^^ (b ||| (d ^^^ 0xffffffff)), (7 * index) % 16)

def round (block : Array UInt32) (w : Words) (input : UInt32 × Nat) : Words :=
  let mixed := mixing input.2 w.b w.c w.d
  let sum := w.a + mixed.1 + input.1 + block.getD mixed.2 0
  let amount := amounts.getD (input.2 / 16 * 4 + input.2 % 4) 0
  ⟨w.d, w.b + rotate sum amount, w.b, w.c⟩

def compress (chain block : Bytes) : Bytes :=
  let w := Words.ofBytes chain
  (constants.zipIdx.foldl (round (wordsOf block).toArray) w).add w |>.toBytes

@[simp] theorem length_toBytes (w : Words) : w.toBytes.length = 16 := by
  simp [Words.toBytes, bytesOf]

theorem length_compress (chain block : Bytes) : (compress chain block).length = 16 := by
  simp [compress]

def start : Words :=
  ⟨0x67452301, 0xefcdab89, 0x98badcfe, 0x10325476⟩

end Md5

def md5 : Digest where
  name := "MD5"
  identifier := [0x2a, 0x86, 0x48, 0x86, 0xf7, 0x0d, 0x02, 0x05]
  blockSize := 64
  size := 16
  start := Md5.start.toBytes
  compress := Md5.compress
  lengthField := Bytes.littleEndian 8
  size_le_start := by simp
  size_le_compress := by simp [Md5.length_compress]

end CryptoProvider.Digest
