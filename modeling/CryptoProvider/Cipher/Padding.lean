import CryptoProvider.Bytes

/-! Padding to whole blocks: as many bytes as are missing, each of them holding that number. -/

set_option autoImplicit false

namespace CryptoProvider.Cipher

-- Completes the last block, or adds a whole one when none is begun.
def pad (blockSize : Nat) (data : Bytes) : Bytes :=
  let missing := blockSize - data.length % blockSize
  data ++ List.replicate missing (UInt8.ofNat missing)

-- Removes the padding; `none` if the data do not end in a valid one.
def unpad? (blockSize : Nat) (data : Bytes) : Option Bytes :=
  match data.getLast? with
  | none => none
  | some last =>
    let missing := last.toNat
    let kept := data.take (data.length - missing)
    if 0 < missing ∧ missing ≤ blockSize ∧ missing ≤ data.length ∧
        data.drop (data.length - missing) = List.replicate missing last then some kept
    else none

end CryptoProvider.Cipher
