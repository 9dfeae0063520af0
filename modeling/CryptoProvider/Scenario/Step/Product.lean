import CryptoProvider.Scenario.Session
import CryptoProvider.Scenario.Use

/-! Steps on products and keys. -/

set_option autoImplicit false

namespace CryptoProvider.Scenario

inductive Family where
  | hash
  | mac
  | cipher
  | scheme
  | random
  deriving DecidableEq, Repr

def Session.family? (s : Session) (slot : String) : Option Family := do
  match ← s.object? slot with
  | .hash _ => return .hash
  | .mac _ => return .mac
  | .cipher _ => return .cipher
  | .scheme _ => return .scheme
  | .random _ => return .random
  | _ => none

inductive ProductCall where
  | hash (call : HashCall)
  | mac (call : MacCall)
  | cipher (call : CipherCall)
  | scheme (call : SchemeCall)
  | random (call : RandomCall)

inductive ProductStep where
  | use (slot : String) (call : ProductCall)
  | keep (key : KeyName)
  | encode (key : KeyName)

def Session.keyRing (s : Session) : KeyRing := fun slot =>
  (s.object? slot).bind Object.key?

def encodedHalf (key : Key.Private) : Answer :=
  .ofResult (Product.Scheme.answered (keys.encodePublic key)) fun encoded =>
    .text (Bytes.toHex encoded)

namespace ProductCall

open Session

def run (slot : String) : ProductCall → StateM Session Outcome
  | hash call => withObject slot Object.hash? fun product => do
    let (answer, product) ← act (call.run product)
    put slot (.hash product)
    return .answered answer
  | mac call => withObject slot Object.mac? fun product => do
    return .answered (← act (call.run product))
  | cipher call => withObject slot Object.cipher? fun product =>
    return .answered (call.run product)
  | scheme call => withObject slot Object.scheme? fun product => do
    let (answer, key) ← act (call.run (← get).keyRing product)
    return (answer, key.map .key)
  | random call => withObject slot Object.random? fun product => do
    return .answered (← act (call.run product))

end ProductCall

namespace ProductStep

def run : ProductStep → StateM Session Outcome
  | use slot call => call.run slot
  | keep name => do
    match name.resolve (← get).keyRing with
    | .ok key => return (.done, some (.key key))
    | .error answer => return .answered answer
  | encode name => do
    match name.resolve (← get).keyRing with
    | .ok key => return .answered (encodedHalf key)
    | .error answer => return .answered answer

end ProductStep

end CryptoProvider.Scenario
