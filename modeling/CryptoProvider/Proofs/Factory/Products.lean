import CryptoProvider.Factory.Dispatch
import CryptoProvider.Proofs.Factory.Lifecycle

/-!
Dispatch and the operations on products. An operation holds its suite or its generator while it
runs, so what it uses is there even when an engine or a generator resets the factory in the middle
of it.
-/

set_option autoImplicit false

namespace CryptoProvider

open Ledger Factory

variable {ω : Type} {alone : Bool} {hand : Custody ω}

namespace Factory

theorem Orderly.lift {α : Type} {operation : StateM (Process ω) α} {after : Custody ω}
    (same : after.owned = hand.owned)
    (spec : ∀ contents, Ensures (Sound hand contents) operation fun _ => Sound after contents) :
    Ensures (Orderly alone hand) operation fun _ => Orderly alone after :=
  fun s orderly => (spec _ s orderly.sound).orderly (same ▸ orderly.follows)

theorem orderly_note {notice : Notice} :
    Ensures (Orderly alone hand (ω := ω)) (Process.onPlatform (Platform.note notice)) fun _ =>
      Orderly alone hand :=
  Orderly.lift rfl fun _ => Sound.note

theorem orderly_pure {α : Type} (value : α) :
    Ensures (Orderly alone hand (ω := ω)) (pure value) fun _ => Orderly alone hand :=
  Ensures.pure fun _ orderly => orderly

theorem orderly_acquireSuite? (number : Nat) :
    Ensures (Orderly alone hand (ω := ω)) (acquireSuite? number) fun acquired s =>
      match acquired with
      | none => Orderly alone hand s
      | some suite => suite.handle.started = true ∧
          Orderly alone (hand.addSuite (number, suite.handle.entry)) s := by
  intro s orderly
  have acquired := sound_acquireSuite? number s orderly.sound
  cases found : (acquireSuite? number s).1 with
  | none =>
    rw [found] at acquired
    exact acquired.orderly orderly.follows
  | some suite =>
    rw [found] at acquired
    exact ⟨acquired.1, acquired.2.orderly orderly.follows⟩

theorem orderly_releaseSuite {number : Nat} {entry : Entry} :
    Ensures (Orderly alone (hand.addSuite (number, entry))) (releaseSuite number) fun _ =>
      Orderly alone hand :=
  Orderly.lift rfl fun _ => sound_releaseSuite

theorem orderly_acquireGenerator? (number : Nat) :
    Ensures (Orderly alone hand (ω := ω)) (acquireGenerator? number) fun acquired s =>
      match acquired with
      | none => Orderly alone hand s
      | some shared => Orderly alone (hand.addGenerator (number, shared.view.1)) s := by
  intro s orderly
  have acquired := sound_acquireGenerator? number s orderly.sound
  cases found : (acquireGenerator? number s).1 with
  | none =>
    rw [found] at acquired
    exact acquired.orderly orderly.follows
  | some shared =>
    rw [found] at acquired
    exact acquired.orderly orderly.follows

theorem orderly_releaseGenerator {number : Nat} {entry : Entry} :
    Ensures (Orderly alone (hand.addGenerator (number, entry))) (releaseGenerator number) fun _ =>
      Orderly alone hand :=
  Orderly.lift rfl fun _ => sound_releaseGenerator

theorem orderly_use_suite {α : Type} {operation : StateM (Platform ω) α} {flight : Flight}
    (flying : flight ∈ hand.suites)
    (spec : ∀ rest contents, Ensures (Books (flight.2 :: rest) contents) operation
      fun _ => Books (flight.2 :: rest) contents) :
    Ensures (Orderly alone hand) (Process.onPlatform operation) fun _ => Orderly alone hand :=
  Orderly.lift rfl fun contents => Sound.lift_held
    (fun _ standing => List.mem_append_left _ (standing.suites.mem_held flying))
    fun rest => spec rest contents

theorem orderly_use_generator {α : Type} {operation : StateM (Platform ω) α} {flight : Flight}
    (flying : flight ∈ hand.generators)
    (spec : ∀ rest contents, Ensures (Books (flight.2 :: rest) contents) operation
      fun _ => Books (flight.2 :: rest) contents) :
    Ensures (Orderly alone hand) (Process.onPlatform operation) fun _ => Orderly alone hand :=
  Orderly.lift rfl fun contents => Sound.lift_held
    (fun _ standing => List.mem_append_right _ (List.mem_append_left _
      (standing.generators.mem_held flying)))
    fun rest => spec rest contents

/-- Custody after an operation that may have reset the factory. -/
inductive MayReset (hand : Custody ω) : Custody ω → Prop where
  | kept : MayReset hand hand
  | reset : MayReset hand { hand with current := none, owned := none }

/-- The process stays in order through an operation, which may reset the factory. -/
def KeepsOrder {α : Type} (operation : StateM (Process ω) α) : Prop :=
  ∀ alone hand, Ensures (Orderly alone hand) operation fun _ s =>
    ∃ after, MayReset hand after ∧ Orderly alone after s

theorem KeepsOrder.of_same {α : Type} {operation : StateM (Process ω) α}
    (same : ∀ alone hand, Ensures (Orderly alone hand) operation fun _ => Orderly alone hand) :
    KeepsOrder operation :=
  fun alone hand => Ensures.weaken (same alone hand) fun _ _ orderly => ⟨hand, .kept, orderly⟩

inductive Request where
  | cipher (kind : CipherKind)
  | scheme (kind : SchemeKind)
  | hash (kind : HashKind)
  | mac (kind : MacKind)
  | random (kind : GeneratorKind)
  deriving DecidableEq, Repr

inductive Made where
  | cipher (product : Product.Cipher)
  | scheme (product : Product.Scheme)
  | hash (product : Product.Hash)
  | mac (product : Product.Mac)
  | random (product : Product.Random)

def dispatch (number : Nat) : Request → StateM (Process ω) (Except Error Made)
  | .cipher kind => do return (← cipher number kind).map .cipher
  | .scheme kind => do return (← scheme number kind).map .scheme
  | .hash kind => do return (← hash number kind).map .hash
  | .mac kind => do return (← mac number kind).map .mac
  | .random kind => do return (← random number kind).map .random

theorem orderly_live (number : Nat) :
    Ensures (Orderly alone hand (ω := ω)) (live number) fun _ => Orderly alone hand := by
  unfold live
  refine Ensures.read fun s orderly => Ensures.strengthen ?_ fun _ same => same ▸ orderly
  cases subsystems? s number with
  | some owned => exact orderly_pure _
  | none => exact Ensures.bind orderly_note fun _ => orderly_pure _

theorem orderly_refuseKind {α : Type} (label : String) :
    Ensures (Orderly alone hand (ω := ω)) (refuseKind (α := α) label) fun _ =>
      Orderly alone hand :=
  Ensures.bind orderly_note fun _ => orderly_pure _

theorem orderly_fromSuite {α : Type} (owned : Subsystems ω) (label : String)
    (make : Nat → Engine.Suite ω → α) :
    Ensures (Orderly alone hand) (fromSuite owned label make) fun _ => Orderly alone hand := by
  unfold fromSuite
  refine Ensures.read fun s orderly => Ensures.strengthen ?_ fun _ same => same ▸ orderly
  dsimp only
  split
  · exact orderly_pure _
  · exact Ensures.bind orderly_note fun _ => orderly_pure _

-- Every request but one looks at the instance first and answers at once if it is gone.
theorem orderly_whenLive {α : Type} (number : Nat)
    {rest : Except Error (Subsystems ω) → StateM (Process ω) (Except Error α)}
    (gone : ∀ cause, rest (.error cause) = pure (.error cause))
    (owns : ∀ owned, Ensures (Orderly alone hand) (rest (.ok owned)) fun _ => Orderly alone hand) :
    Ensures (Orderly alone hand) (live number >>= rest) fun _ => Orderly alone hand := by
  refine Ensures.bind (orderly_live number) fun owned => ?_
  cases owned with
  | error cause =>
    rw [gone]
    exact orderly_pure _
  | ok owned => exact owns owned

theorem orderly_cipher (number : Nat) (kind : CipherKind) :
    Ensures (Orderly alone hand (ω := ω)) (cipher number kind) fun _ => Orderly alone hand := by
  refine orderly_whenLive number (fun _ => rfl) fun owned => ?_
  cases kind with
  | unknown => exact orderly_refuseKind _
  | _ => exact orderly_pure _

theorem orderly_scheme (number : Nat) (kind : SchemeKind) :
    Ensures (Orderly alone hand (ω := ω)) (scheme number kind) fun _ => Orderly alone hand := by
  refine orderly_whenLive number (fun _ => rfl) fun owned => ?_
  cases kind with
  | unknown => exact orderly_refuseKind _
  | gost => exact orderly_fromSuite owned _ _
  | _ => exact orderly_pure _

theorem orderly_hash (number : Nat) (kind : HashKind) :
    Ensures (Orderly alone hand (ω := ω)) (hash number kind) fun _ => Orderly alone hand := by
  refine orderly_whenLive number (fun _ => rfl) fun owned => ?_
  cases kind with
  | unknown => exact orderly_refuseKind _
  | gost => exact orderly_fromSuite owned _ _
  | _ => exact orderly_pure _

theorem orderly_mac (number : Nat) (kind : MacKind) :
    Ensures (Orderly alone hand (ω := ω)) (mac number kind) fun _ => Orderly alone hand := by
  refine orderly_whenLive number (fun _ => rfl) fun owned => ?_
  cases kind with
  | unknown => exact orderly_refuseKind _
  | hmacGost => exact orderly_fromSuite owned _ _
  | _ => exact orderly_pure _

theorem orderly_random (number : Nat) (kind : GeneratorKind) :
    Ensures (Orderly alone hand (ω := ω)) (random number kind) fun _ => Orderly alone hand := by
  cases kind with
  | unknown => exact Ensures.bind orderly_note fun _ => orderly_pure _
  | standard =>
    refine orderly_whenLive number (fun _ => rfl) fun owned => ?_
    dsimp only
    cases owned.generator with
    | none => exact orderly_pure _
    | some generator => exact orderly_pure _

-- Asking for a product changes nothing but what the operator is told.
theorem orderly_dispatch (number : Nat) (request : Request) :
    Ensures (Orderly alone hand (ω := ω)) (dispatch number request) fun _ =>
      Orderly alone hand := by
  cases request with
  | cipher kind => exact Ensures.bind (orderly_cipher number kind) fun _ => orderly_pure _
  | scheme kind => exact Ensures.bind (orderly_scheme number kind) fun _ => orderly_pure _
  | hash kind => exact Ensures.bind (orderly_hash number kind) fun _ => orderly_pure _
  | mac kind => exact Ensures.bind (orderly_mac number kind) fun _ => orderly_pure _
  | random kind => exact Ensures.bind (orderly_random number kind) fun _ => orderly_pure _

end Factory

namespace Product

namespace Source

theorem orderly_acquire (source : Source) :
    Ensures (Orderly alone hand (ω := ω)) source.acquire fun available s =>
      match source.suite, available with
      | none, _ | some _, false => Orderly alone hand s
      | some number, true => ∃ entry, Orderly alone (hand.addSuite (number, entry)) s := by
  unfold acquire
  cases source.suite with
  | none => exact orderly_pure _
  | some number =>
    refine Ensures.bind (orderly_acquireSuite? number) fun acquired => ?_
    cases acquired with
    | none => exact orderly_pure _
    | some suite => exact Ensures.pure fun _ orderly => ⟨_, orderly.2⟩

theorem orderly_during {α : Type} (source : Source) (operation : Bool → α) :
    Ensures (Orderly alone hand (ω := ω)) (source.during operation) fun _ =>
      Orderly alone hand := by
  unfold during
  refine Ensures.bind (orderly_acquire source) fun available => ?_
  unfold release
  cases source.suite with
  | none => cases available <;> exact orderly_pure _
  | some number =>
    cases available with
    | false => exact orderly_pure _
    | true =>
      refine Ensures.exists_intro fun entry => ?_
      exact Ensures.bind orderly_releaseSuite fun _ => orderly_pure _

end Source

namespace Hash

theorem keepsOrder_hash (product : Hash) (response : Response) (data : Bytes)
    (output : Option Bytes) : KeepsOrder (product.hash (ω := ω) response data output) := by
  refine KeepsOrder.of_same fun alone hand => ?_
  unfold hash
  cases output with
  | none => exact orderly_pure _
  | some buffer => exact product.source.orderly_during _

theorem keepsOrder_start (product : Hash) (response : Response) :
    KeepsOrder (product.start (ω := ω) response) :=
  KeepsOrder.of_same fun _ _ => product.source.orderly_during _

theorem keepsOrder_update (product : Hash) (response : Response) (data : Bytes) :
    KeepsOrder (product.update (ω := ω) response data) :=
  KeepsOrder.of_same fun _ _ => product.source.orderly_during _

theorem keepsOrder_finish (product : Hash) (response : Response) (output : Option Bytes) :
    KeepsOrder (product.finish (ω := ω) response output) := by
  refine KeepsOrder.of_same fun alone hand => ?_
  unfold finish
  cases output with
  | none => exact orderly_pure _
  | some buffer =>
    cases product.stream with
    | none => exact orderly_pure _
    | some stream =>
      exact Ensures.bind (product.source.orderly_during _) fun _ => orderly_pure _

end Hash

namespace Mac

theorem keepsOrder_sign (product : Mac) (ciphers : CipherSuite) (response : Response)
    (key data : Bytes) (output : Option Bytes) :
    KeepsOrder (product.sign (ω := ω) ciphers response key data output) := by
  refine KeepsOrder.of_same fun alone hand => ?_
  unfold sign
  cases output with
  | none => exact orderly_pure _
  | some buffer =>
    cases product with
    | hmac kind source =>
      dsimp only
      split
      · exact orderly_pure _
      · exact source.orderly_during _
    | cmac family =>
      dsimp only
      cases family.cipher ciphers key <;> exact orderly_pure _

end Mac

namespace Scheme

theorem keepsOrder_withDigest {α : Type} (scheme : Scheme) (operation : KeyOperation)
    (run : Option Digest → Option α) :
    KeepsOrder (scheme.withDigest (ω := ω) operation run) := by
  refine KeepsOrder.of_same fun alone hand => ?_
  unfold withDigest
  cases scheme.signing? with
  | none => exact orderly_pure _
  | some source? =>
    cases source? with
    | none => exact orderly_pure _
    | some source => exact source.orderly_during _

-- The engine of a suite that is held may reset the factory before it answers.
theorem orderly_requestKey {suite : Engine.Suite ω} {number : Nat}
    (started : suite.handle.started = true) (algorithm : Int)
    (parameters : List (String × String)) :
    Ensures (Orderly alone (hand.addSuite (number, suite.handle.entry)))
      (requestKey suite algorithm parameters) fun _ s => ∃ after, MayReset hand after ∧
        Orderly alone (after.addSuite (number, suite.handle.entry)) s := by
  unfold requestKey
  refine Ensures.bind (orderly_use_suite List.mem_cons_self fun _ _ =>
    Engine.Suite.books_requestKey started algorithm parameters) fun reply => ?_
  dsimp only
  split
  · refine Ensures.bind orderly_reset fun _ => ?_
    refine Ensures.bind (orderly_use_suite List.mem_cons_self fun _ _ =>
      Engine.Handle.books_use started (by simp [usesEngine]) rfl) fun _ => ?_
    exact Ensures.pure fun _ orderly => ⟨_, .reset, orderly⟩
  · exact Ensures.pure fun _ orderly => ⟨hand, .kept, orderly⟩

theorem keepsOrder_suiteKey (number : Nat) : KeepsOrder (suiteKey (ω := ω) number) := by
  intro alone hand
  unfold suiteKey
  refine Ensures.bind (orderly_acquireSuite? number) fun acquired => ?_
  cases acquired with
  | none => exact Ensures.pure fun _ orderly => ⟨hand, .kept, orderly⟩
  | some suite =>
    refine Ensures.given fun started => ?_
    refine Ensures.bind (orderly_requestKey started _ _) fun result => ?_
    refine Ensures.exists_intro fun after => Ensures.given fun mayReset => ?_
    refine Ensures.bind orderly_releaseSuite fun _ => ?_
    exact Ensures.pure fun _ orderly => ⟨after, mayReset, orderly⟩

theorem keepsOrder_generateKey (scheme : Scheme) (library : Key.Library) (seed : Nat)
    (parameters : KeyParameters) :
    KeepsOrder (scheme.generateKey (ω := ω) library seed parameters) := by
  have idle : ∀ result : Except Error Key.Private,
      KeepsOrder (pure result : StateM (Process ω) (Except Error Key.Private)) :=
    fun result => KeepsOrder.of_same fun _ _ => Ensures.pure fun _ orderly => orderly
  unfold generateKey
  cases scheme with
  | gost source =>
    dsimp only
    split
    · cases source.suite with
      | none => exact idle _
      | some number => exact keepsOrder_suiteKey number
    · exact idle _
  | _ => exact idle _

end Scheme

namespace Random

theorem orderly_request {shared : SharedGenerator ω} {place count : Nat} :
    Ensures (Orderly alone (hand.addGenerator (place, shared.view.1))) (request shared count)
      fun _ s => ∃ after, MayReset hand after ∧
        Orderly alone (after.addGenerator (place, shared.view.1)) s := by
  -- The generator is held until the answer is there, so a reset meanwhile lets go of it but does
  -- not drop it.
  have used : ∀ (call : Call), usesGenerator shared.number call = true →
      call.subjects = [shared.number] → ∀ hand : Custody ω,
      Ensures (Orderly alone (hand.addGenerator (place, shared.view.1)))
        (Process.onPlatform (Platform.record shared.generator.reported call))
        fun _ => Orderly alone (hand.addGenerator (place, shared.view.1)) :=
    fun call uses about hand => orderly_use_generator List.mem_cons_self fun _ _ =>
      Books.record_one (Leads.use_generator uses) about
  unfold request
  refine Ensures.bind (used (.generate shared.number count) (by simp [usesGenerator]) rfl hand)
    fun _ => ?_
  refine Ensures.bind (Orderly.lift rfl fun _ => Sound.consult) fun reply => ?_
  split
  · refine Ensures.bind orderly_reset fun _ => ?_
    refine Ensures.bind (used (.generateResumes shared.number) (by simp [usesGenerator]) rfl
      { hand with current := none, owned := none }) fun _ => ?_
    exact Ensures.pure fun _ orderly => ⟨_, .reset, orderly⟩
  · exact Ensures.pure fun _ orderly => ⟨hand, .kept, orderly⟩

theorem keepsOrder_generate (product : Random) (count : Nat) :
    KeepsOrder (product.generate (ω := ω) count) := by
  intro alone hand
  unfold generate
  refine Ensures.bind (orderly_acquireGenerator? product.generator) fun acquired => ?_
  cases acquired with
  | none => exact Ensures.pure fun _ orderly => ⟨hand, .kept, orderly⟩
  | some shared =>
    refine Ensures.bind orderly_request fun result => ?_
    refine Ensures.exists_intro fun after => Ensures.given fun mayReset => ?_
    refine Ensures.bind orderly_releaseGenerator fun _ => ?_
    exact Ensures.pure fun _ orderly => ⟨after, mayReset, orderly⟩

end Random

end Product

end CryptoProvider
