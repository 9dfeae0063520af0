import CryptoProvider.Bytes

/-!
Iterated digests: a chaining value is compressed with one block after another, and the data end
with a one bit, zeros and their length. Data are absorbed byte by byte, so a stream does not
depend on how its data were cut (`update_append`), and every digest has its declared length
(`length_finish`).
-/

set_option autoImplicit false

namespace CryptoProvider

/-- An iterated digest. Chaining values are byte strings at least as long as the digest itself. -/
structure Digest where
  name : String
  identifier : Bytes
  blockSize : Nat
  size : Nat
  start : Bytes
  compress : Bytes → Bytes → Bytes
  /-- The closing form of the data's length in bits. -/
  lengthField : Nat → Bytes
  size_le_start : size ≤ start.length
  size_le_compress : ∀ chain block, size ≤ (compress chain block).length

namespace Digest

/-- A digest computation between two bytes. -/
structure Stream where
  chain : Bytes
  pending : Bytes
  count : Nat
  deriving DecidableEq, Repr

def fresh (d : Digest) : Stream :=
  ⟨d.start, [], 0⟩

def absorb (d : Digest) (s : Stream) (byte : UInt8) : Stream :=
  let pending := s.pending ++ [byte]
  if pending.length = d.blockSize then ⟨d.compress s.chain pending, [], s.count + 1⟩
  else ⟨s.chain, pending, s.count + 1⟩

def update (d : Digest) (s : Stream) (data : Bytes) : Stream :=
  data.foldl d.absorb s

-- What closes data of `count` bytes: a one bit, zeros up to the length field, the length in bits.
def closing (d : Digest) (count : Nat) : Bytes :=
  let field := d.lengthField (count * 8)
  let used := (count + 1 + field.length) % d.blockSize
  0x80 :: List.replicate ((d.blockSize - used) % d.blockSize) 0 ++ field

def finish (d : Digest) (s : Stream) : Bytes :=
  (d.update s (d.closing s.count)).chain.take d.size

def hash (d : Digest) (data : Bytes) : Bytes :=
  d.finish (d.update d.fresh data)

theorem update_append (d : Digest) (s : Stream) (left right : Bytes) :
    d.update s (left ++ right) = d.update (d.update s left) right := by
  simp [update]

@[simp] theorem update_nil (d : Digest) (s : Stream) : d.update s [] = s := rfl

theorem size_le_chain_absorb (d : Digest) (s : Stream) (byte : UInt8)
    (h : d.size ≤ s.chain.length) : d.size ≤ (d.absorb s byte).chain.length := by
  unfold absorb
  dsimp only
  split
  · exact d.size_le_compress _ _
  · exact h

theorem size_le_chain_update (d : Digest) (data : Bytes) (s : Stream)
    (h : d.size ≤ s.chain.length) : d.size ≤ (d.update s data).chain.length := by
  induction data generalizing s with
  | nil => exact h
  | cons byte rest ih => exact ih _ (d.size_le_chain_absorb s byte h)

theorem length_finish (d : Digest) (s : Stream) (h : d.size ≤ s.chain.length) :
    (d.finish s).length = d.size := by
  simp only [finish, List.length_take]
  exact Nat.min_eq_left (d.size_le_chain_update _ s h)

@[simp] theorem length_hash (d : Digest) (data : Bytes) : (d.hash data).length = d.size :=
  d.length_finish _ (d.size_le_chain_update data d.fresh d.size_le_start)

end Digest

end CryptoProvider
