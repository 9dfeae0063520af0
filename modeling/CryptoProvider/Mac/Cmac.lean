import CryptoProvider.Cipher.Block

/-! CMAC over any block cipher of eight or sixteen byte blocks. -/

set_option autoImplicit false

namespace CryptoProvider.Mac

-- Doubles a block as a field element: a shift to the left, reduced when a bit falls out.
def doubleBlock (block : Bytes) : Bytes :=
  let width := block.length
  let reduction := if width = 16 then 0x87 else 0x1b
  let doubled := Bytes.toNat block * 2
  if block.headD 0 < 0x80 then Bytes.bigEndian width doubled
  else Bytes.bigEndian width (doubled ^^^ reduction)

-- The last block, masked: by the first subkey if it is full, filled up and by the second if not.
def lastBlock (blockSize : Nat) (subkey block : Bytes) : Bytes :=
  if block.length = blockSize then Bytes.xor block subkey
  else
    let filled := block ++ 0x80 :: List.replicate (blockSize - block.length - 1) 0
    Bytes.xor filled (doubleBlock subkey)

def chainBlocks (c : BlockCipher) (subkey : Bytes) : (previous : Bytes) → List Bytes → Bytes
  | previous, [] => c.encrypt (Bytes.xor previous (lastBlock c.blockSize subkey []))
  | previous, [block] => c.encrypt (Bytes.xor previous (lastBlock c.blockSize subkey block))
  | previous, block :: rest => chainBlocks c subkey (c.encrypt (Bytes.xor previous block)) rest

def cmac (c : BlockCipher) (data : Bytes) : Bytes :=
  let zeros := List.replicate c.blockSize 0
  chainBlocks c (doubleBlock (c.encrypt zeros)) zeros (Bytes.chunks c.blockSize data)

end CryptoProvider.Mac
