import CryptoProvider.Proofs.Factory.Products
import CryptoProvider.Proofs.Likeness.Lifecycle

/-!
Dispatch and the operations on products, in the course of time and on processes that are alike. An
operation may reset the factory while it runs, and is regular all the same.
-/

set_option autoImplicit false

namespace CryptoProvider

open Factory

variable {ω : Type}

namespace Factory

theorem regular_live (number : Nat) : Regular (ω := ω) (live number) := by
  unfold live
  apply Regular.read
  · intro s t alike
    rw [alike.owned]
  · intro s
    cases subsystems? s number with
    | some owned => exact .pure _
    | none => exact .bind (.note _) fun _ => .pure _

theorem regular_refuseKind {α : Type} (label : String) :
    Regular (refuseKind (ω := ω) (α := α) label) :=
  .bind (.note _) fun _ => .pure _

theorem regular_fromSuite {α : Type} (owned : Subsystems ω) (label : String)
    (make : Nat → Engine.Suite ω → α) : Regular (fromSuite owned label make) := by
  unfold fromSuite
  apply Regular.read
  · intro s t alike
    rw [alike.suites]
  · intro s
    dsimp only
    split
    · exact .pure _
    · exact .bind (.note _) fun _ => .pure _

section

variable (number : Nat)

theorem regular_cipher (kind : CipherKind) : Regular (ω := ω) (cipher number kind) := by
  apply Regular.bind (regular_live number)
  intro owned
  cases owned with
  | error cause => exact .pure _
  | ok owned =>
    cases kind with
    | unknown => exact regular_refuseKind _
    | _ => exact .pure _

theorem regular_scheme (kind : SchemeKind) : Regular (ω := ω) (scheme number kind) := by
  apply Regular.bind (regular_live number)
  intro owned
  cases owned with
  | error cause => exact .pure _
  | ok owned =>
    cases kind with
    | gost => exact regular_fromSuite owned _ _
    | unknown => exact regular_refuseKind _
    | _ => exact .pure _

theorem regular_hash (kind : HashKind) : Regular (ω := ω) (hash number kind) := by
  apply Regular.bind (regular_live number)
  intro owned
  cases owned with
  | error cause => exact .pure _
  | ok owned =>
    cases kind with
    | gost => exact regular_fromSuite owned _ _
    | unknown => exact regular_refuseKind _
    | _ => exact .pure _

theorem regular_mac (kind : MacKind) : Regular (ω := ω) (mac number kind) := by
  apply Regular.bind (regular_live number)
  intro owned
  cases owned with
  | error cause => exact .pure _
  | ok owned =>
    cases kind with
    | hmacGost => exact regular_fromSuite owned _ _
    | unknown => exact regular_refuseKind _
    | _ => exact .pure _

theorem regular_random (kind : GeneratorKind) : Regular (ω := ω) (random number kind) := by
  cases kind with
  | unknown => exact .bind (.note _) fun _ => .pure _
  | standard =>
    apply Regular.bind (regular_live number)
    intro owned
    cases owned with
    | error cause => exact .pure _
    | ok owned =>
      dsimp only
      cases owned.generator with
      | none => exact .pure _
      | some generator => exact .pure _

theorem regular_dispatch (request : Request) : Regular (ω := ω) (dispatch number request) := by
  cases request with
  | cipher kind => exact .bind (regular_cipher number kind) fun _ => .pure _
  | scheme kind => exact .bind (regular_scheme number kind) fun _ => .pure _
  | hash kind => exact .bind (regular_hash number kind) fun _ => .pure _
  | mac kind => exact .bind (regular_mac number kind) fun _ => .pure _
  | random kind => exact .bind (regular_random number kind) fun _ => .pure _

end

end Factory

namespace Product

namespace Source

variable (source : Source)

theorem regular_acquire : Regular (ω := ω) source.acquire := by
  unfold acquire
  cases source.suite with
  | none => exact .pure _
  | some number => exact .bind (regular_acquireSuite? number) fun _ => .pure _

theorem regular_during {α : Type} (operation : Bool → α) :
    Regular (ω := ω) (source.during operation) := by
  unfold during
  apply Regular.bind source.regular_acquire
  intro available
  cases available with
  | false => exact .pure _
  | true => exact .bind (.forM regular_releaseSuite) fun _ => .pure _

end Source

namespace Hash

variable (product : Hash) (response : Response)

theorem regular_hash (data : Bytes) (output : Option Bytes) :
    Regular (ω := ω) (product.hash response data output) := by
  unfold hash
  cases output with
  | none => exact .pure _
  | some buffer => exact product.source.regular_during _

theorem regular_start : Regular (ω := ω) (product.start response) :=
  product.source.regular_during _

theorem regular_update (data : Bytes) : Regular (ω := ω) (product.update response data) :=
  product.source.regular_during _

theorem regular_finish (output : Option Bytes) :
    Regular (ω := ω) (product.finish response output) := by
  unfold finish
  cases output with
  | none => exact .pure _
  | some buffer =>
    cases product.stream with
    | none => exact .pure _
    | some stream => exact .bind (product.source.regular_during _) fun _ => .pure _

end Hash

theorem Mac.regular_sign (product : Mac) (ciphers : CipherSuite) (response : Response)
    (key data : Bytes) (output : Option Bytes) :
    Regular (ω := ω) (product.sign ciphers response key data output) := by
  unfold sign
  cases output with
  | none => exact .pure _
  | some buffer =>
    cases product with
    | hmac kind source =>
      dsimp only
      split
      · exact .pure _
      · exact source.regular_during _
    | cmac family =>
      dsimp only
      cases family.cipher ciphers key with
      | error cause => exact .pure _
      | ok cipher => exact .pure _

namespace Scheme

theorem regular_requestKey (suite : Engine.Suite ω) (algorithm : Int)
    (parameters : List (String × String)) : Regular (requestKey suite algorithm parameters) := by
  unfold requestKey
  apply Regular.bind (.onPlatform (suite.oblivious_requestKey algorithm parameters))
  intro reply
  dsimp only
  split
  · apply Regular.bind regular_reset
    exact fun _ => .bind (.onPlatform (Platform.oblivious_record _ _)) fun _ => .pure _
  · exact .pure _

theorem regular_suiteKey (number : Nat) : Regular (ω := ω) (suiteKey number) := by
  unfold suiteKey
  apply Regular.bind (regular_acquireSuite? number)
  intro acquired
  cases acquired with
  | none => exact .pure _
  | some suite =>
    apply Regular.bind (regular_requestKey suite _ _)
    exact fun _ => .bind (regular_releaseSuite number) fun _ => .pure _

variable (scheme : Scheme)

theorem regular_generateKey (library : Key.Library) (seed : Nat) (parameters : KeyParameters) :
    Regular (ω := ω) (scheme.generateKey library seed parameters) := by
  unfold generateKey
  cases scheme with
  | gost source =>
    dsimp only
    split
    · cases source.suite with
      | none => exact .pure _
      | some number => exact regular_suiteKey number
    · exact .pure _
  | _ => exact .pure _

theorem regular_withDigest {α : Type} (operation : KeyOperation)
    (run : Option Digest → Option α) : Regular (ω := ω) (scheme.withDigest operation run) := by
  unfold withDigest
  cases scheme.signing? with
  | none => exact .pure _
  | some source? =>
    cases source? with
    | none => exact .pure _
    | some source => exact source.regular_during _

end Scheme

namespace Random

theorem regular_request (shared : SharedGenerator ω) (count : Nat) :
    Regular (request shared count) := by
  unfold request
  apply Regular.bind (.onPlatform (Platform.oblivious_record _ _))
  intro _
  apply Regular.bind (.onPlatform (Platform.oblivious_consult _))
  intro reply
  dsimp only
  split
  · apply Regular.bind regular_reset
    exact fun _ => .bind (.onPlatform (Platform.oblivious_record _ _)) fun _ => .pure _
  · exact .pure _

theorem regular_generate (product : Random) (count : Nat) :
    Regular (ω := ω) (product.generate count) := by
  unfold generate
  apply Regular.bind (regular_acquireGenerator? product.generator)
  intro acquired
  cases acquired with
  | none => exact .pure _
  | some shared =>
    apply Regular.bind (regular_request shared count)
    exact fun _ => .bind (regular_releaseGenerator _) fun _ => .pure _

end Random

end Product

end CryptoProvider
