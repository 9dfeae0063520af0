import CryptoProvider.Digest.Sha256
import CryptoProvider.Factory.Lifecycle
import CryptoProvider.Product.Source

/-!
Asymmetric schemes. They do not look at the type of a key: that is left to the library of key
operations. They differ in the digest they name, in the keys they generate and in what they refuse.
-/

set_option autoImplicit false

namespace CryptoProvider.Product

variable {ω : Type}

inductive Scheme where
  | rsa
  | dsa
  | dh
  | ecdh
  | ecdsa
  | eddsa
  /-- Signatures with a suite's digest and keys of its engine. -/
  | gost (source : Source)

inductive CurveChoice where
  | named (curve : Key.CurveName)
  | edwards (curve : Key.EdwardsName)
  | other
  deriving DecidableEq, Repr

inductive KeyParameters where
  | standard
  | bits (count : Nat)
  | curve (choice : CurveChoice)
  deriving DecidableEq, Repr

namespace Scheme

def kind : Scheme → SchemeKind
  | rsa => .rsa
  | dsa => .dsa
  | dh => .dh
  | ecdh => .ecdh
  | ecdsa => .ecdsa
  | eddsa => .eddsa
  | gost _ => .gost

def ofSuite (number : Nat) (suite : Engine.Suite ω) : Scheme :=
  .gost (.ofSuite number suite)

def modulusBits (kind : SchemeKind) : KeyParameters → Except Error Nat
  | .standard => .ok 2048
  | .bits count => .ok count
  | .curve _ => .error (.invalidParameter (.notCurveBased kind))

/-- The named curve; the usual one unless another is asked for. -/
def namedCurve (kind : SchemeKind) : KeyParameters → Except Error Key.CurveName
  | .standard => .ok .prime256v1
  | .curve (.named curve) => .ok curve
  | .curve _ => .error .cryptoLibrary
  | .bits _ => .error (.invalidParameter (.curveNeeded kind))

def edwardsCurve : KeyParameters → Except Error Key.EdwardsName
  | .standard => .ok .ed25519
  | .curve (.edwards curve) => .ok curve
  | _ => .error (.invalidParameter .edwardsCurveNeeded)

def request (scheme : Scheme) (parameters : KeyParameters) : Except Error Key.Request :=
  match scheme with
  | rsa => (modulusBits .rsa parameters).map .rsa
  | dsa => (modulusBits .dsa parameters).map .dsa
  | dh =>
    if parameters = .standard then .ok .dhStandard else (modulusBits .dh parameters).map .dh
  | ecdh => (namedCurve .ecdh parameters).map .ec
  | ecdsa => (namedCurve .ecdsa parameters).map .ec
  | eddsa => (edwardsCurve parameters).map .edwards
  | gost _ => .error (.invalidParameter .fixedParameterSet)

def answered {α : Type} (result : Option α) : Except Error α :=
  match result with
  | some value => .ok value
  | none => .error .cryptoLibrary

/-- Asks a suite that is held for a key; its engine may reset the factory before it answers. -/
def requestKey (suite : Engine.Suite ω) (algorithm : Int) (parameters : List (String × String)) :
    StateM (Process ω) (Except Error Key.Private) := do
  let reply ← Process.onPlatform (suite.requestKey algorithm parameters)
  if reply.resets then
    Factory.reset
    Process.onPlatform
      (Platform.record suite.handle.api.reported (.engineKeyResumes suite.handle.engine))
  return reply.result

def suiteKey (number : Nat) : StateM (Process ω) (Except Error Key.Private) := do
  match ← Factory.acquireSuite? number with
  | none => return .error .instanceReset
  | some suite =>
    let result ← requestKey suite Engine.suiteKeys [("paramset", "A")]
    Factory.releaseSuite number
    return result

/-- A fresh key; `seed` is the state of the library's random source. -/
def generateKey (scheme : Scheme) (library : Key.Library) (seed : Nat)
    (parameters : KeyParameters) : StateM (Process ω) (Except Error Key.Private) := do
  match scheme with
  | gost source =>
    if parameters = .standard then
      match source.suite with
      | none => return .error .instanceReset
      | some number => suiteKey number
    else return .error (.invalidParameter .fixedParameterSet)
  | scheme =>
    return (scheme.request parameters).bind fun request => answered (library.generate request seed)

/-- How a scheme names its digest: not at all, or by a source. Schemes that do not sign have none.
-/
def signing? : Scheme → Option (Option Source)
  | rsa | dsa | ecdsa => some (some (.builtin Digest.sha256))
  | eddsa => some none
  | gost source => some (some source)
  | dh | ecdh => none

def withDigest {α : Type} (scheme : Scheme) (operation : KeyOperation)
    (run : Option Digest → Option α) : StateM (Process ω) (Except Error α) := do
  match scheme.signing? with
  | none => return .error (.invalidParameter (.operationNotSupported scheme.kind operation))
  | some none => return answered (run none)
  | some (some source) =>
    source.during fun available =>
      if available then answered (run (some source.digest)) else .error .instanceReset

/-- A signature; `seed` is the state of the library's random source. -/
def sign (scheme : Scheme) (library : Key.Library) (seed : Nat) (key : Key.Private) (data : Bytes) :
    StateM (Process ω) (Except Error Bytes) :=
  scheme.withDigest .signing fun digest => library.sign key digest data seed

def verify (scheme : Scheme) (library : Key.Library) (key : Key.Public) (data signature : Bytes) :
    StateM (Process ω) (Except Error Bool) :=
  scheme.withDigest .verification fun digest => library.verify key digest data signature

def agree (scheme : Scheme) (library : Key.Library) (key : Key.Private) (peer : Key.Public) :
    Except Error Bytes :=
  match scheme with
  | dh | ecdh => answered (library.agree key peer)
  | scheme => .error (.invalidParameter (.operationNotSupported scheme.kind .derivation))

end Scheme

def publicHalf (library : Key.Library) (key : Key.Private) : Except Error Key.Public :=
  Scheme.answered (library.publicHalf key)

end CryptoProvider.Product
