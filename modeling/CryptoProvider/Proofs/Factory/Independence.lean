import CryptoProvider.Proofs.Factory.Operations

/-!
Products that do not need the process. A call on such a product neither looks at the process nor
changes it, so a sequence of calls has the same replies whatever happens in between.
-/

set_option autoImplicit false

namespace CryptoProvider

open Factory

variable {ω : Type}

theorem bind_of_idle {s : Process ω} {α β : Type} {program : StateM (Process ω) α} {value : α}
    {rest : α → StateM (Process ω) β} (idle : program s = (value, s)) :
    (program >>= rest) s = rest value s := by
  change rest (program s).1 (program s).2 = rest value s
  rw [idle]

/-- A program that neither looks at the process nor changes it; its answer has a property. -/
def Idle {α : Type} (program : StateM (Process ω) α) (property : α → Prop) : Prop :=
  ∃ value, property value ∧ ∀ s, program s = (value, s)

namespace Idle

variable {α β : Type} {property : α → Prop}

theorem pure {value : α} (holds : property value) :
    Idle (Pure.pure value : StateM (Process ω) α) property :=
  ⟨value, holds, fun _ => rfl⟩

theorem bind {program : StateM (Process ω) α} {rest : α → StateM (Process ω) β}
    {final : β → Prop} (first : Idle program property)
    (next : ∀ value, property value → Idle (rest value) final) : Idle (program >>= rest) final := by
  obtain ⟨value, holds, idle⟩ := first
  obtain ⟨answer, fulfilled, follows⟩ := next value holds
  exact ⟨answer, fulfilled, fun s => (bind_of_idle (idle s)).trans (follows s)⟩

-- Whatever the first program answers.
theorem andThen {program : StateM (Process ω) α} {rest : α → StateM (Process ω) β}
    {final : β → Prop}
    (first : Idle program fun _ => True) (next : ∀ value, Idle (rest value) final) :
    Idle (program >>= rest) final :=
  first.bind fun value _ => next value

end Idle

/-! Calls on a product, with anything in between. -/

/-- What happens while a caller holds a product: a step of the process, or a call on the product. -/
inductive Turn (ω Operation : Type) where
  | step (step : Step ω)
  | call (operation : Operation)

namespace Turn

variable {Operation P : Type}

def call? : Turn ω Operation → Option Operation
  | .step _ => none
  | .call operation => some operation

/-- The replies to the calls on a product, which goes on as each call leaves it. -/
def replies [Memory ω] (perform : P → Operation → StateM (Process ω) (Product.Reply × P)) :
    List (Turn ω Operation) → P → Process ω → List Product.Reply
  | [], _, _ => []
  | .step between :: turns, product, s => replies perform turns product (between.run s).2
  | .call operation :: turns, product, s =>
    let ((reply, left), next) := perform product operation s
    reply :: replies perform turns left next

/-- The same calls on a product have the same replies, wherever and whatever happens meanwhile. -/
def Independent [Memory ω] (perform : P → Operation → StateM (Process ω) (Product.Reply × P))
    (product : P) : Prop :=
  ∀ (turns others : List (Turn ω Operation)) (s t : Process ω),
    turns.filterMap call? = others.filterMap call? →
      replies perform turns product s = replies perform others product t

section

variable {perform : P → Operation → StateM (Process ω) (Product.Reply × P)} (good : P → Prop)
  (idle : ∀ product, good product → ∀ operation,
    Idle (perform product operation) fun answer => good answer.2)

include idle

-- Calls that neither look at the process nor change it may as well be made with nothing in between.
theorem replies_of_idle [Memory ω] (turns : List (Turn ω Operation)) {product : P}
    (holds : good product) (s t : Process ω) :
    replies perform turns product s =
      replies perform ((turns.filterMap call?).map .call) product t := by
  induction turns generalizing product s with
  | nil => rfl
  | cons turn turns ih =>
    cases turn with
    | step between => exact ih holds (between.run s).2
    | call operation =>
      obtain ⟨⟨reply, left⟩, still, same⟩ := idle product holds operation
      change replies perform (.call operation :: turns) product s =
        replies perform (.call operation :: (turns.filterMap call?).map .call) product t
      simp only [replies, same]
      exact congrArg (reply :: ·) (ih still s)

theorem Independent.of_idle [Memory ω] {product : P} (holds : good product) :
    Independent perform product := by
  intro turns others s t same
  rw [replies_of_idle good idle turns holds s t, replies_of_idle good idle others holds t t, same]

end

end Turn

namespace Product

theorem Source.idle_during {α : Type} {property : α → Prop} (digest : Digest)
    {operation : Bool → α} (holds : property (operation true)) :
    Idle (ω := ω) ((Source.builtin digest).during operation) property :=
  ⟨operation true, holds, fun _ => rfl⟩

theorem Hash.idle_perform (digest : Digest) (product : Hash)
    (builtin : product.source = .builtin digest) (operation : Hash.Operation) :
    Idle (ω := ω) (product.perform operation) fun answer =>
      answer.2.source = .builtin digest := by
  obtain ⟨kind, _, stream⟩ := product
  subst builtin
  -- The stream changes, but the source of the digest never does.
  cases operation with
  | hash response data output =>
    have hashed : Idle (ω := ω) (Hash.hash ⟨kind, .builtin digest, stream⟩ response data output)
        fun _ => True := by
      cases output with
      | none => exact .pure trivial
      | some buffer => exact Source.idle_during digest trivial
    exact .andThen hashed fun _ => .pure rfl
  | hashBytes response data =>
    have hashed : Idle (ω := ω) (Hash.hashBytes ⟨kind, .builtin digest, stream⟩ response data)
        fun _ => True :=
      .andThen (Source.idle_during digest trivial) fun _ => .pure trivial
    exact .andThen hashed fun _ => .pure rfl
  | start response =>
    have started : Idle (ω := ω) (Hash.start ⟨kind, .builtin digest, stream⟩ response)
        fun answer => answer.2.source = .builtin digest :=
      Source.idle_during digest (by cases response <;> rfl)
    exact .bind started fun _ kept => .pure kept
  | update response data =>
    have updated : Idle (ω := ω) (Hash.update ⟨kind, .builtin digest, stream⟩ response data)
        fun answer => answer.2.source = .builtin digest :=
      Source.idle_during digest (by cases stream <;> cases response <;> rfl)
    exact .bind updated fun _ kept => .pure kept
  | finish response output =>
    have finished : Idle (ω := ω) (Hash.finish ⟨kind, .builtin digest, stream⟩ response output)
        fun answer => answer.2.source = .builtin digest := by
      cases output with
      | none => exact .pure rfl
      | some buffer =>
        cases stream with
        | none => exact .pure rfl
        | some stream =>
          exact .andThen (Source.idle_during digest trivial) fun _ => .pure rfl
    exact .bind finished fun _ kept => .pure kept

-- A product whose tags are computed without the process.
theorem Mac.idle_perform {product : Mac}
    (signs : ∀ ciphers response key data output,
      Idle (ω := ω) (product.sign ciphers response key data output) fun _ => True)
    (operation : Mac.Operation) :
    Idle (ω := ω) (product.perform operation) fun answer => answer.2 = product := by
  cases operation with
  | sign ciphers response key data output =>
    exact .andThen (signs ciphers response key data output) fun _ => .pure rfl
  | signBytes ciphers response key data =>
    have signed : Idle (ω := ω) (product.signBytes ciphers response key data) fun _ => True :=
      .andThen (signs ciphers response key data _) fun _ => .pure trivial
    exact .andThen signed fun _ => .pure rfl
  | verify ciphers response key data tag =>
    have judged : Idle (ω := ω) (product.verify? ciphers response key data tag) fun _ => True :=
      .andThen (signs ciphers response key data _) fun _ => .pure trivial
    have verified : Idle (ω := ω) (product.verify ciphers response key data tag) fun _ => True :=
      .andThen judged fun _ => .pure trivial
    exact .andThen verified fun _ => .pure rfl

theorem Mac.idle_sign_builtin (kind : MacKind) (digest : Digest) (ciphers : CipherSuite)
    (response : Response) (key data : Bytes) (output : Option Bytes) :
    Idle (ω := ω) (Mac.sign (.hmac kind (.builtin digest)) ciphers response key data output)
      fun _ => True := by
  unfold sign
  cases output with
  | none => exact .pure trivial
  | some buffer =>
    dsimp only
    split
    · exact .pure trivial
    · exact Source.idle_during digest trivial

theorem Mac.idle_sign_cmac (family : CmacFamily) (ciphers : CipherSuite) (response : Response)
    (key data : Bytes) (output : Option Bytes) :
    Idle (ω := ω) (Mac.sign (.cmac family) ciphers response key data output) fun _ => True := by
  unfold sign
  cases output with
  | none => exact .pure trivial
  | some buffer =>
    dsimp only
    cases family.cipher ciphers key with
    | error cause => exact .pure trivial
    | ok cipher => exact .pure trivial

theorem Cipher.idle_perform (product : Cipher) (operation : Cipher.Operation) :
    Idle (ω := ω) (product.perform operation) fun _ => True := by
  cases operation with
  | encrypt => exact .pure trivial
  | decrypt => exact .pure trivial

theorem Scheme.idle_perform (scheme : Scheme) (builtin : scheme.kind ≠ .gost)
    (operation : Scheme.Operation) :
    Idle (ω := ω) (scheme.perform operation) fun answer => answer.2.kind ≠ .gost := by
  have digested : ∀ {α : Type} (use : KeyOperation) (run : Option Digest → Option α),
      Idle (ω := ω) (scheme.withDigest use run) fun _ => True := by
    intro α use run
    unfold withDigest
    cases scheme with
    | gost source => exact absurd rfl builtin
    | rsa | dsa | ecdsa => exact Source.idle_during Digest.sha256 trivial
    | eddsa | dh | ecdh => exact .pure trivial
  cases operation with
  | generateKey library seed parameters =>
    cases scheme with
    | gost source => exact absurd rfl builtin
    | _ => exact .pure builtin
  | sign library seed key data => exact .andThen (digested _ _) fun _ => .pure builtin
  | verify library key data signature => exact .andThen (digested _ _) fun _ => .pure builtin

end Product

end CryptoProvider
