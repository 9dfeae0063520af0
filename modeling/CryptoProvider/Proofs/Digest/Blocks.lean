import CryptoProvider.Digest.Basic
import CryptoProvider.Proofs.Bytes.Chunks

/-!
A digest without its stream: the data are closed, cut into blocks and compressed one after another.
A stream absorbs its data byte by byte and comes to the same (`hash_eq_ofBlocks`).
-/

set_option autoImplicit false

namespace CryptoProvider.Digest

open Bytes

variable (d : Digest)

/-- The digest of data that are all there from the start. -/
def ofBlocks (data : Bytes) : Bytes :=
  ((chunks d.blockSize (data ++ d.closing data.length)).foldl d.compress d.start).take d.size

variable {d}

theorem count_update (s : Stream) (data : Bytes) :
    (d.update s data).count = s.count + data.length := by
  induction data generalizing s with
  | nil => rfl
  | cons byte rest ih =>
    have one : (d.absorb s byte).count = s.count + 1 := by
      simp only [absorb]
      split <;> rfl
    have later : (d.update s (byte :: rest)).count = (d.absorb s byte).count + rest.length :=
      ih (d.absorb s byte)
    rw [later, one, List.length_cons]
    omega

-- As long as the bytes that wait do not make a block, the chaining value stays.
theorem update_of_short (s : Stream) (data : Bytes)
    (short : s.pending.length + data.length < d.blockSize) :
    d.update s data = ⟨s.chain, s.pending ++ data, s.count + data.length⟩ := by
  induction data generalizing s with
  | nil => simp
  | cons byte rest ih =>
    rw [List.length_cons] at short
    have waits : d.absorb s byte = ⟨s.chain, s.pending ++ [byte], s.count + 1⟩ := by
      have few : (s.pending ++ [byte]).length ≠ d.blockSize := by
        rw [List.length_append, List.length_singleton]
        omega
      simp only [absorb, few, if_false]
    have later := ih (d.absorb s byte) (by rw [waits]; simp; omega)
    rw [waits] at later
    calc d.update s (byte :: rest) = d.update ⟨s.chain, s.pending ++ [byte], s.count + 1⟩ rest := by
          rw [← waits]; rfl
      _ = _ := by rw [later]; simp; omega

theorem update_block (chain : Bytes) (count : Nat) {block : Bytes} (positive : 0 < d.blockSize)
    (whole : block.length = d.blockSize) :
    d.update ⟨chain, [], count⟩ block = ⟨d.compress chain block, [], count + block.length⟩ := by
  have some : block ≠ [] := List.ne_nil_of_length_pos (whole ▸ positive)
  have short : block.dropLast.length + 1 = d.blockSize := by
    rw [List.length_dropLast, whole]
    omega
  -- All but the last byte wait, and the last one completes the block.
  have waiting := update_of_short ⟨chain, [], count⟩ block.dropLast (d := d) (by simp; omega)
  have split : block.dropLast ++ [block.getLast some] = block := List.dropLast_concat_getLast some
  calc d.update ⟨chain, [], count⟩ block
      = d.update (d.update ⟨chain, [], count⟩ block.dropLast) [block.getLast some] := by
        rw [← update_append, split]
    _ = d.absorb ⟨chain, block.dropLast, count + block.dropLast.length⟩ (block.getLast some) := by
        rw [waiting]
        rfl
    _ = ⟨d.compress chain block, [], count + block.length⟩ := by
        simp only [absorb, split, whole, if_true]
        congr 1
        omega

theorem update_blocks (chain : Bytes) (count : Nat) {data : Bytes} (positive : 0 < d.blockSize)
    (whole : data.length % d.blockSize = 0) :
    d.update ⟨chain, [], count⟩ data =
      ⟨(chunks d.blockSize data).foldl d.compress chain, [], count + data.length⟩ := by
  induction data, whole using block_induction generalizing chain count with
  | nil => simp
  | block block rest full _ ih =>
    rw [update_append, update_block chain count positive full, ih, chunks_append positive full,
      List.foldl_cons, List.length_append, Nat.add_assoc]

theorem filled {size : Nat} (positive : 0 < size) (used : Nat) :
    (used + (size - used % size) % size) % size = 0 := by
  have below := Nat.mod_lt used positive
  rw [Nat.add_mod, Nat.mod_mod]
  rcases Nat.eq_zero_or_pos (used % size) with none | some
  · simp [none]
  · have gap : size - used % size < size := by omega
    rw [Nat.mod_eq_of_lt gap, Nat.add_sub_cancel' (Nat.le_of_lt below), Nat.mod_self]

/-- What closes the data fills their last block. -/
theorem length_closed (positive : 0 < d.blockSize) (count : Nat) :
    (count + (d.closing count).length) % d.blockSize = 0 := by
  have fills := filled positive (count + 1 + (d.lengthField (count * 8)).length)
  have length : count + (d.closing count).length =
      count + 1 + (d.lengthField (count * 8)).length +
        (d.blockSize - (count + 1 + (d.lengthField (count * 8)).length) % d.blockSize) %
          d.blockSize := by
    simp only [Digest.closing, List.length_append, List.length_cons, List.length_replicate]
    omega
  rwa [length]

-- Without a block size nothing is ever compressed.
theorem update_of_zero (zero : d.blockSize = 0) (s : Stream) (data : Bytes) :
    (d.update s data).chain = s.chain := by
  induction data generalizing s with
  | nil => rfl
  | cons byte rest ih =>
    have kept : (d.absorb s byte).chain = s.chain := by
      simp [absorb, zero]
    exact (ih _).trans kept

/-- However a stream absorbs its data, the digest is that of their blocks. -/
theorem hash_eq_ofBlocks (data : Bytes) : d.hash data = d.ofBlocks data := by
  have closed : d.hash data =
      (d.update d.fresh (data ++ d.closing data.length)).chain.take d.size := by
    have counted : (d.update d.fresh data).count = data.length := by
      rw [count_update]
      exact Nat.zero_add _
    rw [update_append, hash, finish, counted]
  rw [closed, ofBlocks]
  rcases Nat.eq_zero_or_pos d.blockSize with zero | positive
  · rw [update_of_zero zero, zero, chunks_zero]
    rfl
  · have whole : (data ++ d.closing data.length).length % d.blockSize = 0 := by
      rw [List.length_append]
      exact length_closed positive data.length
    rw [fresh, update_blocks d.start 0 positive whole]

end CryptoProvider.Digest
