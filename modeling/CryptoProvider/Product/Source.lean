import CryptoProvider.Digest.Md5
import CryptoProvider.Digest.Sha1
import CryptoProvider.Digest.Sha256
import CryptoProvider.Digest.Sha512
import CryptoProvider.Factory.Shared

/-!
Where a product's digest comes from: it is builtin, or it belongs to an alternate suite and can
only be used while somebody holds that suite. Even then the cryptographic library may fail a call.
-/

set_option autoImplicit false

namespace CryptoProvider.Product

variable {ω : Type}

def builtinDigest? : HashKind → Option Digest
  | .md5 => some Digest.md5
  | .sha1 => some Digest.sha1
  | .sha224 => some Digest.sha224
  | .sha256 => some Digest.sha256
  | .sha384 => some Digest.sha384
  | .sha512 => some Digest.sha512
  | .gost | .unknown => none

/-- A digest and the number of the suite it belongs to, if it is not builtin. -/
structure Source where
  digest : Digest
  suite : Option Nat

namespace Source

def builtin (digest : Digest) : Source :=
  ⟨digest, none⟩

def ofSuite (number : Nat) (suite : Engine.Suite ω) : Source :=
  ⟨suite.digest, some number⟩

def size (source : Source) : Nat :=
  source.digest.size

/-- Begins an operation: holds the suite, if there is one. Whether the digest can be used. -/
def acquire (source : Source) : StateM (Process ω) Bool := do
  match source.suite with
  | none => return true
  | some number => return (← Factory.acquireSuite? number).isSome

def release (source : Source) : StateM (Process ω) Unit :=
  source.suite.forM Factory.releaseSuite

/-- Runs one operation, which learns whether the digest can be used. -/
def during {α : Type} (source : Source) (operation : (available : Bool) → α) :
    StateM (Process ω) α := do
  let available ← source.acquire
  let result := operation available
  if available then source.release
  return result

end Source

/-- How the cryptographic library takes a call for a digest or a tag. If it fails to feed a stream,
the stream stands for some other data from then on. -/
inductive Response where
  | served
  | failed (left : Bytes)
  deriving DecidableEq, Repr

/-- What becomes of a result: its digest may be gone, and the library may fail to compute it. -/
def Response.outcome {α : Type} (response : Response) (available : Bool) (result : α) :
    Except Error α :=
  if available then
    match response with
    | served => .ok result
    | failed _ => .error .cryptoLibrary
  else .error .instanceReset

/-- The outcome of writing into a caller's buffer: the count of bytes, and the buffer afterwards. -/
structure Written where
  result : Except Error Nat
  buffer : Option Bytes

namespace Written

def failed (cause : Error) (buffer : Option Bytes) : Written :=
  ⟨.error cause, buffer⟩

def copy (result buffer : Bytes) : Written :=
  if buffer.length < result.length then
    failed (.invalidParameter (.outputTooSmall buffer.length result.length)) (some buffer)
  else ⟨.ok result.length, some (Bytes.overwrite buffer result)⟩

/-- What is written into a buffer of an outcome: nothing, if it is a failure. -/
def deliver (outcome : Except Error Bytes) (buffer : Bytes) : Written :=
  match outcome with
  | .error cause => failed cause (some buffer)
  | .ok result => copy result buffer

def toBytes (written : Written) : Except Error Bytes :=
  written.result.map fun count => (written.buffer.getD []).take count

end Written

end CryptoProvider.Product
