import CryptoProvider.Cipher.Block
import CryptoProvider.Mac.Cmac
import CryptoProvider.Mac.Hmac
import CryptoProvider.Product.Source

/-!
Message authentication products. Verification computes the tag again, in a buffer of the announced
size, and compares it with the candidate.
-/

set_option autoImplicit false

namespace CryptoProvider.Product

variable {ω : Type}

inductive CmacFamily where
  | des
  | aes
  deriving DecidableEq, Repr

inductive Mac where
  | hmac (kind : MacKind) (source : Source)
  | cmac (family : CmacFamily)

namespace CmacFamily

def kind : CmacFamily → MacKind
  | des => .cmacDes
  | aes => .cmacAes

/-- Bytes in the tag, which is a whole block. -/
def size : CmacFamily → Nat
  | des => 8
  | aes => 16

/-- The cipher under a key: the family by itself, and for DES the length of the key, choose it. -/
def cipher (family : CmacFamily) (ciphers : CipherSuite) (key : Bytes) : Except Error BlockCipher :=
  match family, key.length with
  | .aes, 16 | .aes, 24 | .aes, 32 => .ok (ciphers.aes key)
  | .des, 8 => .ok (ciphers.des key)
  | .des, 16 => .ok (ciphers.tripleDes (key ++ key.take 8))
  | .des, 24 => .ok (ciphers.tripleDes key)
  | _, size => .error (.invalidParameter (.keySize family.kind.label size))

end CmacFamily

namespace Mac

def ofHash (kind : MacKind) : Except Error Mac :=
  match kind.hash?.bind builtinDigest? with
  | some digest => .ok (.hmac kind (.builtin digest))
  | none => .error (.unsupportedKind kind.label)

def ofSuite (number : Nat) (suite : Engine.Suite ω) : Mac :=
  .hmac .hmacGost (.ofSuite number suite)

def ofCipher (kind : MacKind) : Except Error Mac :=
  match kind with
  | .cmacDes => .ok (.cmac .des)
  | .cmacAes => .ok (.cmac .aes)
  | kind => .error (.unsupportedKind kind.label)

def kind : Mac → MacKind
  | hmac kind _ => kind
  | cmac family => family.kind

def size : Mac → Nat
  | hmac _ source => source.size
  | cmac family => family.size

def hmacWith (source : Source) (response : Response) (key data buffer : Bytes)
    (available : Bool) : Written :=
  .deliver (response.outcome available (CryptoProvider.Mac.hmac source.digest key data)) buffer

/-- Writes the tag into a buffer; without one only tells the size. -/
def sign (product : Mac) (ciphers : CipherSuite) (response : Response) (key data : Bytes)
    (output : Option Bytes) : StateM (Process ω) Written := do
  match output with
  | none => return ⟨.ok product.size, none⟩
  | some buffer =>
    match product with
    | hmac _ source =>
      if key.isEmpty then return .failed (.invalidParameter .emptyHmacKey) (some buffer)
      else source.during (hmacWith source response key data buffer)
    | cmac family =>
      match family.cipher ciphers key with
      | .error cause => return .failed cause (some buffer)
      | .ok cipher =>
        return .deliver (response.outcome true (CryptoProvider.Mac.cmac cipher data)) buffer

def signBytes (product : Mac) (ciphers : CipherSuite) (response : Response) (key data : Bytes) :
    StateM (Process ω) (Except Error Bytes) := do
  let written ← product.sign ciphers response key data (some (List.replicate product.size 0))
  return written.toBytes

/-- The first bytes of a buffer; `none` if there are not so many. -/
def slice? (count : Nat) (buffer : Bytes) : Option Bytes :=
  if count ≤ buffer.length then some (buffer.take count) else none

/-- Comparison in constant time; `none` if the lengths differ. -/
def compare? (left right : Bytes) : Option Bool :=
  if left.length = right.length then some (left == right) else none

/-- The verdict on a candidate for the tag that was written. -/
def judge? (written : Written) (candidate : Bytes) : Option (Except Error Bool) :=
  match written.result with
  | .error cause => some (.error cause)
  | .ok count =>
    if candidate.length = count then
      ((slice? count (written.buffer.getD [])).bind (compare? · candidate)).map .ok
    else some (.ok false)

/-- Verification step by step; `none` if a step is taken that must not be. -/
def verify? (product : Mac) (ciphers : CipherSuite) (response : Response) (key data tag : Bytes) :
    StateM (Process ω) (Option (Except Error Bool)) := do
  let written ← product.sign ciphers response key data (some (List.replicate product.size 0))
  return judge? written tag

/-- The answer of a verification, whose steps may all be taken. -/
def verify (product : Mac) (ciphers : CipherSuite) (response : Response) (key data tag : Bytes) :
    StateM (Process ω) (Except Error Bool) := do
  return (← product.verify? ciphers response key data tag).getD (.ok false)

end Mac

end CryptoProvider.Product
