import CryptoProvider.Digest.Basic

/-! HMAC over any iterated digest. -/

set_option autoImplicit false

namespace CryptoProvider.Mac

-- A key brought to one block: hashed if longer, then filled up with zeros.
def blockKey (d : Digest) (key : Bytes) : Bytes :=
  let short := if d.blockSize < key.length then d.hash key else key
  short ++ List.replicate (d.blockSize - short.length) 0

def hmac (d : Digest) (key data : Bytes) : Bytes :=
  let block := blockKey d key
  d.hash (block.map (· ^^^ 0x5c) ++ d.hash (block.map (· ^^^ 0x36) ++ data))

@[simp] theorem length_hmac (d : Digest) (key data : Bytes) :
    (hmac d key data).length = d.size := by
  simp [hmac]

end CryptoProvider.Mac
