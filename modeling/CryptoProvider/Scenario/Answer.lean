import CryptoProvider.Factory.Dispatch
import CryptoProvider.Key.Encoding

/-! What a rehearsed call comes to. -/

set_option autoImplicit false

namespace CryptoProvider.Scenario

structure KeyDescription where
  type : String
  bits : Nat
  deriving DecidableEq, Repr

def KeyDescription.ofKey (key : Key.Private) : KeyDescription :=
  ⟨key.type, key.bits⟩

inductive Answer where
  | done
  | nothing
  | failed (cause : Error)
  /-- The script names something that is not there or is something else. -/
  | misused (detail : String)
  | flag (value : Bool)
  | number (value : Nat)
  | text (value : String)
  | demanded (constructed : Bool) (sameAs : List String)
  | crowd (constructed : Nat) (same : Bool)
  | capabilities (reset : Bool) (value : Factory.Capabilities)
  | pointers (command transport : Bool)
  | hashProduct (kind : HashKind) (size : Nat)
  | macProduct (kind : MacKind) (size : Nat)
  | cipherProduct (kind : CipherKind) (blockSize : Nat) (keySizes : List Nat)
  | schemeProduct (kind : SchemeKind)
  | digest (value : Bytes)
  | tag (value : Bytes)
  | written (count : Nat) (buffer : Option Bytes)
  | data (value : Bytes)
  | signature (value : Bytes)
  | secret (value : Bytes)
  | valid (value : Bool)
  /-- Whether a fresh signature is good, and whether it is for longer data. -/
  | signed (valid tampered : Bool)
  | key (description : KeyDescription)
  | agreed (equal empty : Bool)
  | bridge (state : Locking.CallbackState) (poolSize : Nat)
  | context (size : Nat)
  | transport (description : Transport.Description)
  | suite (id : String) (digestSize : Nat)

namespace Answer

def ofResult {α : Type} (result : Except Error α) (answer : α → Answer) : Answer :=
  match result with
  | .ok value => answer value
  | .error cause => failed cause

def ofWritten (outcome : Product.Written) : Answer :=
  ofResult outcome.result fun count => written count outcome.buffer

end Answer

end CryptoProvider.Scenario
