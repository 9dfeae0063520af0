import CryptoProvider.Bytes

/-! The Keccak permutation on twenty-five 64-bit lanes, and the SHAKE256 extendable-output function. -/

set_option autoImplicit false

namespace CryptoProvider.Digest

namespace Keccak

/-- Lane `x + 5 * y` stands in column `x` and row `y`. -/
abbrev Lanes := Array UInt64

def lane (s : Lanes) (x y : Nat) : UInt64 :=
  s.getD (x % 5 + 5 * (y % 5)) 0

def rotate (word : UInt64) (amount : Nat) : UInt64 :=
  if amount = 0 then word
  else word <<< UInt64.ofNat amount ||| word >>> UInt64.ofNat (64 - amount)

def amounts : Array Nat :=
  #[0, 1, 62, 28, 27, 36, 44, 6, 55, 20, 3, 10, 43, 25, 39, 41, 45, 15, 21, 8, 18, 2, 61, 56, 14]

def constants : List UInt64 :=
  [0x0000000000000001, 0x0000000000008082, 0x800000000000808a, 0x8000000080008000,
    0x000000000000808b, 0x0000000080000001, 0x8000000080008081, 0x8000000000008009,
    0x000000000000008a, 0x0000000000000088, 0x0000000080008009, 0x000000008000000a,
    0x000000008000808b, 0x800000000000008b, 0x8000000000008089, 0x8000000000008003,
    0x8000000000008002, 0x8000000000000080, 0x000000000000800a, 0x800000008000000a,
    0x8000000080008081, 0x8000000000008080, 0x0000000080000001, 0x8000000080008008]

def places : Array (Nat × Nat) :=
  (Array.range 25).map fun i => (i % 5, i / 5)

def parity (s : Lanes) (x : Nat) : UInt64 :=
  lane s x 0 ^^^ lane s x 1 ^^^ lane s x 2 ^^^ lane s x 3 ^^^ lane s x 4

-- One round: column parities, rotation and transposition, row mixing, round constant.
def round (s : Lanes) (constant : UInt64) : Lanes :=
  let columns := (Array.range 5).map (parity s)
  let mixed := places.map fun (x, y) =>
    lane s x y ^^^ columns.getD ((x + 4) % 5) 0 ^^^ rotate (columns.getD ((x + 1) % 5) 0) 1
  let moved := places.map fun (x, y) =>
    let source := (x + 3 * y) % 5
    rotate (lane mixed source x) (amounts.getD (source + 5 * x) 0)
  let rows := places.map fun (x, y) =>
    lane moved x y ^^^ ((lane moved (x + 1) y ^^^ 0xffffffffffffffff) &&& lane moved (x + 2) y)
  rows.modify 0 (· ^^^ constant)

def permute (s : Lanes) : Lanes :=
  constants.foldl round s

def absorb (s : Lanes) (block : Bytes) : Lanes :=
  let words := ((Bytes.chunks 8 block).map fun piece => UInt64.ofNat (Bytes.toNatLittle piece)).toArray
  permute (s.mapIdx fun i word => word ^^^ words.getD i 0)

def toBytes (s : Lanes) : Bytes :=
  s.toList.flatMap fun word => Bytes.littleEndian 8 word.toNat

def squeeze (rate : Nat) : (blocks : Nat) → Lanes → Bytes
  | 0, _ => []
  | blocks + 1, s => (toBytes s).take rate ++ squeeze rate blocks (permute s)

-- Data followed by the domain bits, zeros and a last one bit, filling whole blocks.
def padded (rate : Nat) (domain : UInt8) (data : Bytes) : Bytes :=
  let room := rate - data.length % rate
  if room = 1 then data ++ [domain ^^^ 0x80]
  else data ++ [domain] ++ List.replicate (room - 2) 0 ++ [0x80]

end Keccak

-- SHAKE256: as many bytes of output as asked for.
def shake256 (data : Bytes) (size : Nat) : Bytes :=
  let rate := 136
  let s := (Bytes.chunks rate (Keccak.padded rate 0x1f data)).foldl Keccak.absorb
    (Array.replicate 25 0)
  (Keccak.squeeze rate (size / rate + 1) s).take size

end CryptoProvider.Digest
