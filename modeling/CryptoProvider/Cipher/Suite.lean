import CryptoProvider.Cipher.Aes
import CryptoProvider.Cipher.Des

/-! The ciphers this library comes with. -/

set_option autoImplicit false

namespace CryptoProvider

def CipherSuite.standard : CipherSuite where
  aes := Cipher.aes
  des := Cipher.des
  tripleDes := Cipher.tripleDes

end CryptoProvider
