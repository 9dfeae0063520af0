import CryptoProvider.Factory.Lifecycle

/-! Handles on an instance's generator. -/

set_option autoImplicit false

namespace CryptoProvider.Product

variable {ω : Type}

/-- A handle on a generator, which it knows by its number only. -/
structure Random where
  generator : Nat
  deriving DecidableEq, Repr

namespace Random

/-- Asks a generator that is held; it may reset the factory before it answers. -/
def request (shared : Factory.SharedGenerator ω) (count : Nat) :
    StateM (Process ω) (Except Error Bytes) := do
  let reported := shared.generator.reported
  Process.onPlatform (Platform.record reported (.generate shared.number count))
  let reply ← Process.onPlatform (Platform.consult (shared.generator.generate count))
  if reply.resets then
    Factory.reset
    Process.onPlatform (Platform.record reported (.generateResumes shared.number))
  return reply.result

def generate (product : Random) (count : Nat) : StateM (Process ω) (Except Error Bytes) := do
  match ← Factory.acquireGenerator? product.generator with
  | none => return .error .generatorUnavailable
  | some shared =>
    let result ← request shared count
    Factory.releaseGenerator product.generator
    return result.map (Bytes.overwrite (List.replicate count 0))

end Random

end CryptoProvider.Product
