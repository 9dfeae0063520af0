import CryptoProvider.Kind

/-! Block ciphers under a fixed key, and a supply of them by family. -/

set_option autoImplicit false

namespace CryptoProvider

structure BlockCipher where
  blockSize : Nat
  encrypt : Bytes → Bytes
  decrypt : Bytes → Bytes

/-- Blocks stay blocks, and decryption undoes encryption. -/
structure BlockCipher.Lawful (c : BlockCipher) : Prop where
  blockSize_pos : 0 < c.blockSize
  length_encrypt : ∀ block, block.length = c.blockSize → (c.encrypt block).length = c.blockSize
  length_decrypt : ∀ block, block.length = c.blockSize → (c.decrypt block).length = c.blockSize
  decrypt_encrypt : ∀ block, block.length = c.blockSize → c.decrypt (c.encrypt block) = block

/-- A supply of block ciphers, by family and key. -/
structure CipherSuite where
  aes : (key : Bytes) → BlockCipher
  des : (key : Bytes) → BlockCipher
  tripleDes : (key : Bytes) → BlockCipher

end CryptoProvider
