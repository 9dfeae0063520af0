import CryptoProvider.Cipher.Suite
import CryptoProvider.Key.Standard
import CryptoProvider.Scenario.Answer
import CryptoProvider.Scenario.Stage

/-! Calls on products, rehearsed with the ciphers and key operations the library comes with. -/

set_option autoImplicit false

namespace CryptoProvider.Scenario

/-- Where a result goes: to a fresh byte string, nowhere, or into a buffer of a given size. -/
inductive Output where
  | fresh
  | sizeOnly
  | buffer (size : Nat)
  deriving DecidableEq, Repr

/-- The caller's buffer, filled so that untouched bytes can be told. -/
def Output.buffer? : Output → Option Bytes
  | buffer size => some (List.replicate size 0xee)
  | _ => none

inductive HashCall where
  | describe
  | hash (data : Bytes) (output : Output)
  | start
  | update (data : Bytes)
  | finish (output : Output)

inductive MacCall where
  | describe
  | sign (key data : Bytes) (output : Output)
  | verify (key data tag : Bytes)

inductive CipherCall where
  | describe
  | encrypt (mode : CipherMode) (key : Bytes) (iv : Option Bytes) (data : Bytes) (padding : Bool)
  | decrypt (mode : CipherMode) (key : Bytes) (iv : Option Bytes) (data : Bytes) (padding : Bool)

inductive RandomCall where
  | generate (count : Nat) (shown : Bool)

inductive KeyName where
  | given (key : Key.Private)
  | stored (slot : String)

inductive PublicName where
  | given (key : Key.Public)
  | halfOf (name : KeyName)

inductive SchemeCall where
  | describe
  | sign (key : KeyName) (data : Bytes)
  /-- Signs, and checks the signature against the data and against longer data. -/
  | signCheck (key : KeyName) (data : Bytes)
  | verify (key : PublicName) (data signature : Bytes)
  | agree (key : KeyName) (peer : PublicName)
  | generate (parameters : Product.KeyParameters)
  /-- Generates two keys and agrees on a secret both ways. -/
  | agreement (parameters : Product.KeyParameters)

def keys : Key.Library := Key.Library.standard

def ciphers : CipherSuite := CipherSuite.standard

def nextSeed : StateM (Process Stage) Nat :=
  Process.onPlatform (Platform.consult Stage.nextSeed)

abbrev KeyRing := String → Option Key.Private

/-- The key that a name means; the answer to give if it means none. -/
def KeyName.resolve (ring : KeyRing) : KeyName → Except Answer Key.Private
  | given key => .ok key
  | stored slot =>
    match ring slot with
    | some key => .ok key
    | none => .error (.misused s!"slot {slot} holds no key")

def PublicName.resolve (ring : KeyRing) : PublicName → Except Answer Key.Public
  | given key => .ok key
  | halfOf name => do
    let key ← name.resolve ring
    (Product.publicHalf keys key).mapError .failed

namespace HashCall

def run (product : Product.Hash) : HashCall → StateM (Process Stage) (Answer × Product.Hash)
  | describe => return (.hashProduct product.kind product.size, product)
  | hash data .fresh => do
    return (.ofResult (← product.hashBytes .served data) .digest, product)
  | hash data output => do
    return (.ofWritten (← product.hash .served data output.buffer?), product)
  | start => do
    let (result, product) ← product.start .served
    return (.ofResult result fun _ => .done, product)
  | update data => do
    let (result, product) ← product.update .served data
    return (.ofResult result fun _ => .done, product)
  | finish output => do
    let (outcome, product) ← product.finish .served output.buffer?
    return (.ofWritten outcome, product)

end HashCall

namespace MacCall

def run (product : Product.Mac) : MacCall → StateM (Process Stage) Answer
  | describe => return .macProduct product.kind product.size
  | sign key data .fresh => do
    return .ofResult (← product.signBytes ciphers .served key data) .tag
  | sign key data output => do
    return .ofWritten (← product.sign ciphers .served key data output.buffer?)
  | verify key data tag => do
    return .ofResult (← product.verify ciphers .served key data tag) .valid

end MacCall

namespace CipherCall

def run (product : Product.Cipher) : CipherCall → Answer
  | describe => .cipherProduct product.kind product.blockSize product.keySizes
  | encrypt mode key iv data padding =>
    .ofResult (product.encrypt ciphers mode key iv data padding) .data
  | decrypt mode key iv data padding =>
    .ofResult (product.decrypt ciphers mode key iv data padding) .data

end CipherCall

namespace RandomCall

def run (product : Product.Random) : RandomCall → StateM (Process Stage) Answer
  | generate count shown => do
    return .ofResult (← product.generate count) fun bytes =>
      if shown then .text (Bytes.toHex bytes) else .number bytes.length

end RandomCall

namespace SchemeCall

def check (product : Product.Scheme) (key : Key.Private) (data : Bytes) :
    StateM (Process Stage) (Except Error Answer) := do
  match ← product.sign keys (← nextSeed) key data with
  | .error cause => return .error cause
  | .ok signature =>
    match Product.publicHalf keys key with
    | .error cause => return .error cause
    | .ok half =>
      match ← product.verify keys half data signature with
      | .error cause => return .error cause
      | .ok valid =>
        let tampered ← product.verify keys half (data ++ [0]) signature
        return tampered.map (.signed valid)

def secrets (product : Product.Scheme) (first second : Key.Private) :
    Except Error (Bytes × Bytes) := do
  let firstHalf ← Product.publicHalf keys first
  let secondHalf ← Product.publicHalf keys second
  let forth ← product.agree keys first secondHalf
  let back ← product.agree keys second firstHalf
  return (forth, back)

def agreeFresh (product : Product.Scheme) (parameters : Product.KeyParameters) :
    StateM (Process Stage) (Except Error Answer) := do
  match ← product.generateKey keys (← nextSeed) parameters with
  | .error cause => return .error cause
  | .ok first =>
    match ← product.generateKey keys (← nextSeed) parameters with
    | .error cause => return .error cause
    | .ok second =>
      return (secrets product first second).map fun (forth, back) =>
        .agreed (forth == back) forth.isEmpty

def withKey {κ : Type} (key : Except Answer κ) (work : κ → StateM (Process Stage) Answer) :
    StateM (Process Stage) Answer :=
  match key with
  | .ok key => work key
  | .error answer => return answer

/-- Generates a key, which is the second part of the outcome. -/
def makeKey (product : Product.Scheme) (parameters : Product.KeyParameters) :
    StateM (Process Stage) (Answer × Option Key.Private) := do
  match ← product.generateKey keys (← nextSeed) parameters with
  | .error cause => return (.failed cause, none)
  | .ok key => return (.key (.ofKey key), some key)

def keyless (answer : Answer) : Answer × Option Key.Private :=
  (answer, none)

def run (ring : KeyRing) (product : Product.Scheme) :
    SchemeCall → StateM (Process Stage) (Answer × Option Key.Private)
  | describe => return keyless (.schemeProduct product.kind)
  | sign name data => keyless <$> withKey (name.resolve ring) fun key => do
    return .ofResult (← product.sign keys (← nextSeed) key data) .signature
  | signCheck name data => keyless <$> withKey (name.resolve ring) fun key => do
    return .ofResult (← check product key data) id
  | verify name data signature => keyless <$> withKey (name.resolve ring) fun key => do
    return .ofResult (← product.verify keys key data signature) .valid
  | agree name peer => keyless <$> withKey (name.resolve ring) fun key =>
    withKey (peer.resolve ring) fun peer =>
      return .ofResult (product.agree keys key peer) .secret
  | generate parameters => makeKey product parameters
  | agreement parameters => do
    return keyless (.ofResult (← agreeFresh product parameters) id)

end SchemeCall

end CryptoProvider.Scenario
