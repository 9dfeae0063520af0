import CryptoProvider.Key.Agreement
import CryptoProvider.Key.Generation
import CryptoProvider.Key.Signature

/-! The key operations this library comes with. -/

set_option autoImplicit false

namespace CryptoProvider.Key

def Library.standard : Library where
  sign := Signature.sign
  verify := Signature.verify
  agree := Agreement.agree
  encodePublic key := key.publicHalf?.map Public.encode
  decodePublic := Public.decode?
  generate := Generation.generate

end CryptoProvider.Key
