import CryptoProvider.Product.Source

/-!
Hash products. One call hashes at once; a stream is started, fed and finished. What a call does
once it is known whether the digest can be used is a plain function (`hashWith`, `startWith`, …);
the operations on the process only hold the digest's suite around it.
-/

set_option autoImplicit false

namespace CryptoProvider.Product

variable {ω : Type}

/-- A hash product, with the stream it has open. -/
structure Hash where
  kind : HashKind
  source : Source
  stream : Option Digest.Stream

namespace Hash

def builtin (kind : HashKind) : Except Error Hash :=
  match builtinDigest? kind with
  | some digest => .ok ⟨kind, .builtin digest, none⟩
  | none => .error (.unsupportedKind kind.label)

def ofSuite (number : Nat) (suite : Engine.Suite ω) : Hash :=
  ⟨.gost, .ofSuite number suite, none⟩

def size (product : Hash) : Nat :=
  product.source.size

def hashWith (product : Hash) (response : Response) (data buffer : Bytes) (available : Bool) :
    Written :=
  .deliver (response.outcome available (product.source.digest.hash data)) buffer

/-- Opens a stream in place of the one that was open; a failure leaves that one. -/
def startWith (product : Hash) (response : Response) (available : Bool) :
    Except Error Unit × Hash :=
  match response.outcome available product.source.digest.fresh with
  | .ok stream => (.ok (), { product with stream := some stream })
  | .error cause => (.error cause, product)

/-- Feeds the stream; without its digest the stream is lost. -/
def updateWith (product : Hash) (response : Response) (data : Bytes) (available : Bool) :
    Except Error Unit × Hash :=
  if available then
    match product.stream, response with
    | none, _ => (.error (.invalidState .hashNotStarted), product)
    | some stream, .served =>
      (.ok (), { product with stream := some (product.source.digest.update stream data) })
    | some _, .failed left =>
      let stream := product.source.digest.update product.source.digest.fresh left
      (.error .cryptoLibrary, { product with stream := some stream })
  else (.error .instanceReset, { product with stream := none })

def finishWith (product : Hash) (response : Response) (stream : Digest.Stream) (buffer : Bytes)
    (available : Bool) : Written :=
  .deliver (response.outcome available (product.source.digest.finish stream)) buffer

/-- Hashes into a buffer; without one only tells the size. -/
def hash (product : Hash) (response : Response) (data : Bytes) (output : Option Bytes) :
    StateM (Process ω) Written := do
  match output with
  | none => return ⟨.ok product.size, none⟩
  | some buffer => product.source.during (product.hashWith response data buffer)

def hashBytes (product : Hash) (response : Response) (data : Bytes) :
    StateM (Process ω) (Except Error Bytes) := do
  let written ← product.hash response data (some (List.replicate product.size 0))
  return written.toBytes

def start (product : Hash) (response : Response) : StateM (Process ω) (Except Error Unit × Hash) :=
  product.source.during (product.startWith response)

def update (product : Hash) (response : Response) (data : Bytes) :
    StateM (Process ω) (Except Error Unit × Hash) :=
  product.source.during (product.updateWith response data)

/-- Ends the stream, whatever comes of it; without a buffer only tells the size. -/
def finish (product : Hash) (response : Response) (output : Option Bytes) :
    StateM (Process ω) (Written × Hash) := do
  match output with
  | none => return (⟨.ok product.size, none⟩, product)
  | some buffer =>
    match product.stream with
    | none => return (.failed (.invalidState .hashNotStarted) (some buffer), product)
    | some stream =>
      let written ← product.source.during (product.finishWith response stream buffer)
      return (written, { product with stream := none })

end Hash

end CryptoProvider.Product
