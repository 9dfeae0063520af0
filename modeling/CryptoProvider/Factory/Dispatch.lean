import CryptoProvider.Product.Cipher
import CryptoProvider.Product.Hash
import CryptoProvider.Product.Mac
import CryptoProvider.Product.Random
import CryptoProvider.Product.Scheme

/-!
Asking an instance for products, by kind. A reset instance has none; a kind of the alternate suite
needs the suite; the generator needs to have been made.
-/

set_option autoImplicit false

namespace CryptoProvider.Factory

variable {ω : Type}

def live (number : Nat) : StateM (Process ω) (Except Error (Subsystems ω)) := do
  match subsystems? (← get) number with
  | some owned => return .ok owned
  | none =>
    Process.onPlatform (Platform.note .usedAfterReset)
    return .error .instanceReset

def refuseKind {α : Type} (label : String) : StateM (Process ω) (Except Error α) := do
  Process.onPlatform (Platform.note (.unknownAlgorithm label))
  return .error (.unsupportedKind label)

/-- A product made from the alternate suite of an instance. -/
def fromSuite {α : Type} (owned : Subsystems ω) (label : String)
    (make : Nat → Engine.Suite ω → α) : StateM (Process ω) (Except Error α) := do
  let s ← get
  let found := owned.suite.bind fun number => s.suites[number]?.map fun shared => (number, shared)
  match found with
  | some (number, shared) => return .ok (make number shared.suite)
  | none =>
    Process.onPlatform (Platform.note (.engineNeeded label))
    return .error (.unsupportedKind label)

def cipher (number : Nat) (kind : CipherKind) :
    StateM (Process ω) (Except Error Product.Cipher) := do
  match ← live number with
  | .error cause => return .error cause
  | .ok _ =>
    match kind with
    | .aes => return .ok .aes
    | .des => return .ok .des
    | .tripleDes => return .ok .tripleDes
    | .unknown => refuseKind kind.label

def scheme (number : Nat) (kind : SchemeKind) :
    StateM (Process ω) (Except Error Product.Scheme) := do
  match ← live number with
  | .error cause => return .error cause
  | .ok owned =>
    match kind with
    | .rsa => return .ok .rsa
    | .dsa => return .ok .dsa
    | .dh => return .ok .dh
    | .ecdh => return .ok .ecdh
    | .ecdsa => return .ok .ecdsa
    | .eddsa => return .ok .eddsa
    | .gost => fromSuite owned kind.label Product.Scheme.ofSuite
    | .unknown => refuseKind kind.label

def hash (number : Nat) (kind : HashKind) : StateM (Process ω) (Except Error Product.Hash) := do
  match ← live number with
  | .error cause => return .error cause
  | .ok owned =>
    match kind with
    | .gost => fromSuite owned kind.label Product.Hash.ofSuite
    | .unknown => refuseKind kind.label
    | kind => return Product.Hash.builtin kind

def mac (number : Nat) (kind : MacKind) : StateM (Process ω) (Except Error Product.Mac) := do
  match ← live number with
  | .error cause => return .error cause
  | .ok owned =>
    match kind with
    | .hmacGost => fromSuite owned kind.label Product.Mac.ofSuite
    | .cmacDes | .cmacAes => return Product.Mac.ofCipher kind
    | .unknown => refuseKind kind.label
    | kind => return Product.Mac.ofHash kind

/-- A generator, by name. An unknown name is refused before the instance is looked at. -/
def random (number : Nat) (kind : GeneratorKind) :
    StateM (Process ω) (Except Error Product.Random) := do
  match kind with
  | .unknown =>
    Process.onPlatform (Platform.note (.unknownGenerator kind.label))
    return .error (.unsupportedKind kind.label)
  | .standard =>
    match ← live number with
    | .error cause => return .error cause
    | .ok owned =>
      match owned.generator with
      | some generator => return .ok ⟨generator⟩
      | none => return .error .generatorUnavailable

end CryptoProvider.Factory
