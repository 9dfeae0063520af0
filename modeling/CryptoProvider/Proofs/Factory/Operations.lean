import CryptoProvider.Proofs.Factory.Run
import CryptoProvider.Proofs.Likeness.Products

/-!
The operations of each family of products as data, with what the caller gets back; and the answers
of the steps of a run. So a run can be judged by its answers, and two runs can be compared by them.
-/

set_option autoImplicit false

namespace CryptoProvider

open Factory

variable {ω : Type}

namespace Product

/-- What the caller of an operation gets back. -/
inductive Reply where
  /-- A count of bytes, and the caller's buffer afterwards. -/
  | written (outcome : Written)
  | done (outcome : Except Error Unit)
  | bytes (outcome : Except Error Bytes)
  | verdict (outcome : Except Error Bool)
  | key (outcome : Except Error Key.Private)

namespace Reply

def failed : Reply → Bool
  | written outcome => !outcome.result.isOk
  | done outcome => !outcome.isOk
  | bytes outcome => !outcome.isOk
  | verdict outcome => !outcome.isOk
  | key outcome => !outcome.isOk

/-- The caller's buffer afterwards, if there was one. -/
def buffer : Reply → Option Bytes
  | written outcome => outcome.buffer
  | _ => none

end Reply

namespace Hash

inductive Operation where
  | hash (response : Response) (data : Bytes) (output : Option Bytes)
  | hashBytes (response : Response) (data : Bytes)
  | start (response : Response)
  | update (response : Response) (data : Bytes)
  | finish (response : Response) (output : Option Bytes)
  deriving DecidableEq, Repr

namespace Operation

/-- The buffer that the caller wants the result in. -/
def buffer : Operation → Option Bytes
  | hash _ _ output | finish _ output => output
  | _ => none

/-- Whether more than a size is asked for. -/
def asks : Operation → Bool
  | hash _ _ none | finish _ none => false
  | _ => true

end Operation

/-- Performs an operation; the product may have another stream afterwards. -/
def perform (product : Hash) : Operation → StateM (Process ω) (Reply × Hash)
  | .hash response data output => do
    return (.written (← product.hash response data output), product)
  | .hashBytes response data => do return (.bytes (← product.hashBytes response data), product)
  | .start response => do
    let (outcome, product) ← product.start response
    return (.done outcome, product)
  | .update response data => do
    let (outcome, product) ← product.update response data
    return (.done outcome, product)
  | .finish response output => do
    let (outcome, product) ← product.finish response output
    return (.written outcome, product)

theorem regular_perform (product : Hash) (operation : Operation) :
    Regular (ω := ω) (product.perform operation) := by
  cases operation with
  | hash response data output =>
    exact .bind (product.regular_hash response data output) fun _ => .pure _
  | hashBytes response data =>
    exact .bind (.bind (product.regular_hash response data _) fun _ => .pure _) fun _ => .pure _
  | start response => exact .bind (product.regular_start response) fun _ => .pure _
  | update response data => exact .bind (product.regular_update response data) fun _ => .pure _
  | finish response output => exact .bind (product.regular_finish response output) fun _ => .pure _

end Hash

namespace Mac

inductive Operation where
  | sign (ciphers : CipherSuite) (response : Response) (key data : Bytes) (output : Option Bytes)
  | signBytes (ciphers : CipherSuite) (response : Response) (key data : Bytes)
  | verify (ciphers : CipherSuite) (response : Response) (key data tag : Bytes)

namespace Operation

def buffer : Operation → Option Bytes
  | sign _ _ _ _ output => output
  | _ => none

def asks : Operation → Bool
  | sign _ _ _ _ none => false
  | _ => true

end Operation

def perform (product : Mac) : Operation → StateM (Process ω) (Reply × Mac)
  | .sign ciphers response key data output => do
    return (.written (← product.sign ciphers response key data output), product)
  | .signBytes ciphers response key data => do
    return (.bytes (← product.signBytes ciphers response key data), product)
  | .verify ciphers response key data tag => do
    return (.verdict (← product.verify ciphers response key data tag), product)

theorem regular_perform (product : Mac) (operation : Operation) :
    Regular (ω := ω) (product.perform operation) := by
  cases operation with
  | sign ciphers response key data output =>
    exact .bind (product.regular_sign ciphers response key data output) fun _ => .pure _
  | signBytes ciphers response key data =>
    have signed : Regular (ω := ω) (product.signBytes ciphers response key data) :=
      .bind (product.regular_sign ciphers response key data _) fun _ => .pure _
    exact .bind signed fun _ => .pure _
  | verify ciphers response key data tag =>
    have judged : Regular (ω := ω) (product.verify? ciphers response key data tag) :=
      .bind (product.regular_sign ciphers response key data _) fun _ => .pure _
    exact .bind (.bind judged fun _ => .pure _) fun _ => .pure _

end Mac

namespace Cipher

inductive Operation where
  | encrypt (ciphers : CipherSuite) (mode : CipherMode) (key : Bytes) (iv : Option Bytes)
      (data : Bytes) (padding : Bool)
  | decrypt (ciphers : CipherSuite) (mode : CipherMode) (key : Bytes) (iv : Option Bytes)
      (data : Bytes) (padding : Bool)

def perform (product : Cipher) : Operation → StateM (Process ω) (Reply × Cipher)
  | .encrypt ciphers mode key iv data padding =>
    return (.bytes (product.encrypt ciphers mode key iv data padding), product)
  | .decrypt ciphers mode key iv data padding =>
    return (.bytes (product.decrypt ciphers mode key iv data padding), product)

end Cipher

namespace Scheme

inductive Operation where
  | generateKey (library : Key.Library) (seed : Nat) (parameters : KeyParameters)
  | sign (library : Key.Library) (seed : Nat) (key : Key.Private) (data : Bytes)
  | verify (library : Key.Library) (key : Key.Public) (data signature : Bytes)

def perform (product : Scheme) : Operation → StateM (Process ω) (Reply × Scheme)
  | .generateKey library seed parameters => do
    return (.key (← product.generateKey library seed parameters), product)
  | .sign library seed key data => do
    return (.bytes (← product.sign library seed key data), product)
  | .verify library key data signature => do
    return (.verdict (← product.verify library key data signature), product)

theorem regular_perform (product : Scheme) (operation : Operation) :
    Regular (ω := ω) (product.perform operation) := by
  cases operation with
  | generateKey library seed parameters =>
    exact .bind (product.regular_generateKey library seed parameters) fun _ => .pure _
  | sign library seed key data => exact .bind (product.regular_withDigest _ _) fun _ => .pure _
  | verify library key data signature =>
    exact .bind (product.regular_withDigest _ _) fun _ => .pure _

end Scheme

namespace Random

def perform (product : Random) (count : Nat) : StateM (Process ω) (Reply × Random) := do
  return (.bytes (← product.generate count), product)

theorem regular_perform (product : Random) (count : Nat) :
    Regular (ω := ω) (product.perform count) :=
  .bind (product.regular_generate count) fun _ => .pure _

end Random

end Product

namespace Factory

/-- What the caller gets back, and the product that is left. -/
def Use.perform : Use → StateM (Process ω) (Product.Reply × Made)
  | .hash product response data output => onHash product (.hash response data output)
  | .hashStart product response => onHash product (.start response)
  | .hashUpdate product response data => onHash product (.update response data)
  | .hashFinish product response output => onHash product (.finish response output)
  | .mac product ciphers response key data output => do
    let (reply, product) ← product.perform (.sign ciphers response key data output)
    return (reply, .mac product)
  | .generateKey product library seed parameters =>
    onScheme product (.generateKey library seed parameters)
  | .sign product library seed key data => onScheme product (.sign library seed key data)
  | .verify product library key data signature =>
    onScheme product (.verify library key data signature)
  | .random product count => do
    let (reply, product) ← product.perform count
    return (reply, .random product)
where
  onHash (product : Product.Hash) (operation : Product.Hash.Operation) :
      StateM (Process ω) (Product.Reply × Made) := do
    let (reply, product) ← product.perform operation
    return (reply, .hash product)
  onScheme (product : Product.Scheme) (operation : Product.Scheme.Operation) :
      StateM (Process ω) (Product.Reply × Made) := do
    let (reply, product) ← product.perform operation
    return (reply, .scheme product)

theorem Use.run_eq_perform (use : Use) (s : Process ω) : (use.run s).2 = (use.perform s).2 := by
  cases use <;> rfl

theorem Use.regular_perform (use : Use) : Regular (ω := ω) use.perform := by
  have onHash : ∀ product operation, Regular (ω := ω) (Use.perform.onHash product operation) :=
    fun product operation => .bind (product.regular_perform operation) fun _ => .pure _
  have onScheme : ∀ product operation, Regular (ω := ω) (Use.perform.onScheme product operation) :=
    fun product operation => .bind (product.regular_perform operation) fun _ => .pure _
  cases use with
  | hash product response data output => exact onHash product _
  | hashStart product response => exact onHash product _
  | hashUpdate product response data => exact onHash product _
  | hashFinish product response output => exact onHash product _
  | mac product ciphers response key data output =>
    exact .bind (product.regular_perform _) fun _ => .pure _
  | generateKey product library seed parameters => exact onScheme product _
  | sign product library seed key data => exact onScheme product _
  | verify product library key data signature => exact onScheme product _
  | random product count => exact .bind (product.regular_perform count) fun _ => .pure _

/-- What the caller of a step gets back. -/
inductive Answer (ω : Type) where
  | nothing
  | demanded (given : Demanded)
  | dispatched (reply : Except Error Made)
  | used (reply : Product.Reply) (left : Made)
  | loaded (reply : Except Error (Transport.Context ω))

namespace Step

/-- Runs a step, with its answer. -/
def perform [Memory ω] : Step ω → StateM (Process ω) (Answer ω)
  | .demand options => do
    return .demanded (← Factory.demand (Process.onPlatform (Platform.consult options)))
  | .dispatch number request => do return .dispatched (← Factory.dispatch number request)
  | .use operation => do
    let (reply, left) ← operation.perform
    return .used reply left
  | .loadTransport loader name config => do
    return .loaded (← Process.onPlatform (Transport.load loader name config))
  | step => do
    step.run
    return .nothing

theorem run_eq_perform [Memory ω] (step : Step ω) (s : Process ω) :
    (step.run s).2 = (step.perform s).2 := by
  cases step with
  | use operation => exact operation.run_eq_perform s
  | _ => rfl

theorem oblivious_lockCount (registry : Nat) (count : Int) :
    Oblivious Platform.Alike (modify fun s : Platform ω =>
      { s with
        registries := s.registries.modify registry fun r => { r with lockCount := count } }) :=
  Platform.oblivious_modify (fun _ => rfl) (fun _ => rfl) (fun _ => rfl) fun _ _ same =>
    congrArg (fun contents : Ledger.Slots ω => contents.setLockCount registry count) same

/-- Every step does the same on processes that are alike, with the same answer. -/
theorem regular_perform [Memory ω] (step : Step ω) : Regular step.perform := by
  cases step with
  | demand options =>
    apply Regular.bind (regular_demand (.onPlatform (Platform.oblivious_consult options)))
    exact fun _ => .pure _
  | reset => exact .bind regular_reset fun _ => .pure _
  | cloneHandle number => exact .bind (regular_changeHandles number _) fun _ => .pure _
  | dropHandle number =>
    exact .bind (regular_changeHandles number (· - 1)) fun _ => .pure _
  | dispatch number request => exact .bind (regular_dispatch number request) fun _ => .pure _
  | use operation => exact .bind operation.regular_perform fun _ => .pure _
  | serve registry mode index file line =>
    refine .bind ?_ fun _ => .pure _
    apply Regular.read
    · intro s t alike
      rw [alike.platform.registry]
    · intro s
      cases (s.registry registry).callback with
      | none => exact .pure _
      | some callback => exact .onPlatform (callback.oblivious_call mode index file line)
  | lockCount registry count =>
    exact .bind (.onPlatform (oblivious_lockCount registry count)) fun _ => .pure _
  | outside act =>
    exact .bind (.onPlatform (Platform.oblivious_consult act)) fun _ => .pure _
  | loadTransport loader name config =>
    exact .bind (.onPlatform (Transport.oblivious_load loader name config)) fun _ => .pure _
  | unloadTransport => exact .bind (.onPlatform Transport.oblivious_unload) fun _ => .pure _
  | writeCallback registry callback =>
    exact .bind (.onPlatform (Platform.oblivious_writeCallback registry callback)) fun _ => .pure _

theorem later_run [Memory ω] (step : Step ω) (s : Process ω) : Later s (step.run s).2 := by
  rw [run_eq_perform]
  exact step.regular_perform.later s

end Step

end Factory

end CryptoProvider
