import CryptoProvider.Proofs.Factory.Departure
import CryptoProvider.Proofs.Factory.Independence
import CryptoProvider.Proofs.Factory.Provenance

/-!
Products after their instance was torn down. A product that needs the instance's suite or generator
finds that nobody holds it, now and for ever; a product that needs neither works as before.
-/

set_option autoImplicit false

namespace CryptoProvider

open Factory

variable {ω : Type}

section

variable {s : Process ω} {place : Nat}

theorem acquireSuite?_of_lost (lost : (Need.suite place).Lost s) :
    acquireSuite? place s = (none, s) := by
  obtain ⟨shared, found, free⟩ := Option.map_eq_some_iff.mp lost
  simp only [acquireSuite?, bind, StateT.bind, get, getThe, MonadStateOf.get, StateT.get, pure,
    found, free, if_true]
  rfl

theorem acquireGenerator?_of_lost (lost : (Need.generator place).Lost s) :
    acquireGenerator? place s = (none, s) := by
  obtain ⟨shared, found, free⟩ := Option.map_eq_some_iff.mp lost
  simp only [acquireGenerator?, bind, StateT.bind, get, getThe, MonadStateOf.get, StateT.get, pure,
    found, free, if_true]
  rfl

namespace Product

/-- An operation fails, and leaves the caller's buffer and the process as they were. -/
def Fails {P : Type} (operation : StateM (Process ω) (Reply × P)) (buffer : Option Bytes)
    (s : Process ω) : Prop :=
  (operation s).1.1.failed = true ∧ (operation s).1.1.buffer = buffer ∧ (operation s).2 = s

theorem Fails.pure {P : Type} {reply : Reply} {left : P} {buffer : Option Bytes}
    (failed : reply.failed = true) (same : reply.buffer = buffer) :
    Fails (Pure.pure (reply, left)) buffer s :=
  ⟨failed, same, rfl⟩

-- What comes before the failure does nothing.
theorem Fails.bind {P α : Type} {program : StateM (Process ω) α} {value : α}
    {rest : α → StateM (Process ω) (Reply × P)} {buffer : Option Bytes}
    (idle : program s = (value, s)) (fails : Fails (rest value) buffer s) :
    Fails (program >>= rest) buffer s := by
  rw [Fails, bind_of_idle idle]
  exact fails

theorem Source.during_of_lost {α : Type} (digest : Digest) (lost : (Need.suite place).Lost s)
    (operation : Bool → α) :
    (Source.mk digest (some place)).during operation s = (operation false, s) :=
  have unavailable : (Source.mk digest (some place)).acquire s = (false, s) :=
    bind_of_idle (acquireSuite?_of_lost lost)
  bind_of_idle unavailable

section

variable (digest : Digest) (lost : (Need.suite place).Lost s)

include lost

-- Every operation that asks for a result needs the digest, so it fails; one with a buffer leaves it.
theorem Hash.fails_of_lost (kind : HashKind) (stream : Option Digest.Stream)
    {operation : Hash.Operation} (asks : operation.asks = true) :
    Fails ((Hash.mk kind ⟨digest, some place⟩ stream).perform operation) operation.buffer s := by
  have idle : ∀ {α : Type} (operation : Bool → α),
      (Source.mk digest (some place)).during operation s = (operation false, s) :=
    Source.during_of_lost digest lost
  cases operation with
  | hash response data output =>
    cases output with
    | none => cases asks
    | some buffer => exact .bind (idle _) (.pure rfl rfl)
  | hashBytes response data => exact .bind (bind_of_idle (idle _)) (.pure rfl rfl)
  | start response => exact .bind (idle _) (.pure rfl rfl)
  | update response data => exact .bind (idle _) (.pure rfl rfl)
  | finish response output =>
    cases output with
    | none => cases asks
    | some buffer =>
      cases stream with
      | none => exact .pure rfl rfl
      | some stream => exact .bind (bind_of_idle (idle _)) (.pure rfl rfl)

theorem Mac.fails_of_lost (kind : MacKind) {operation : Mac.Operation}
    (asks : operation.asks = true) :
    Fails ((Mac.hmac kind ⟨digest, some place⟩).perform operation) operation.buffer s := by
  have signed : ∀ ciphers response key data buffer, ∃ cause,
      (Mac.hmac kind ⟨digest, some place⟩).sign ciphers response key data (some buffer) s =
        (.failed cause (some buffer), s) := by
    intro ciphers response key data buffer
    simp only [sign]
    split
    · exact ⟨_, rfl⟩
    · exact ⟨_, Source.during_of_lost digest lost _⟩
  cases operation with
  | sign ciphers response key data output =>
    cases output with
    | none => cases asks
    | some buffer =>
      obtain ⟨cause, idle⟩ := signed ciphers response key data buffer
      exact .bind idle (.pure rfl rfl)
  | signBytes ciphers response key data =>
    obtain ⟨cause, idle⟩ := signed ciphers response key data (List.replicate _ 0)
    exact .bind (bind_of_idle idle) (.pure rfl rfl)
  | verify ciphers response key data tag =>
    obtain ⟨cause, idle⟩ := signed ciphers response key data (List.replicate _ 0)
    have judged : (Mac.hmac kind ⟨digest, some place⟩).verify? ciphers response key data tag s =
        (some (.error cause), s) := bind_of_idle idle
    exact .bind (bind_of_idle judged) (.pure rfl rfl)

theorem Scheme.fails_of_lost (operation : Scheme.Operation) :
    Fails ((Scheme.gost ⟨digest, some place⟩).perform operation) none s := by
  cases operation with
  | generateKey library seed parameters =>
    by_cases standard : parameters = .standard
    · have refused : suiteKey place s = (.error .instanceReset, s) :=
        bind_of_idle (acquireSuite?_of_lost lost)
      subst standard
      exact .bind refused (.pure rfl rfl)
    · have refused : (Scheme.gost ⟨digest, some place⟩).generateKey library seed parameters s =
          (.error (.invalidParameter .fixedParameterSet), s) := by
        simp only [generateKey, standard, if_false]
        rfl
      exact .bind refused (.pure rfl rfl)
  | sign library seed key data =>
    exact .bind (Source.during_of_lost digest lost _) (.pure rfl rfl)
  | verify library key data signature =>
    exact .bind (Source.during_of_lost digest lost _) (.pure rfl rfl)

end

theorem Random.generate_of_lost (lost : (Need.generator place).Lost s) (count : Nat) :
    (Random.mk place).generate count s = (.error .generatorUnavailable, s) :=
  bind_of_idle (acquireGenerator?_of_lost lost)

end Product

end

namespace Factory.Made

/-- Whether a product works without its instance: the same calls have the same replies. -/
def Lasting (ω : Type) [Memory ω] : Made → Prop
  | .cipher product => Turn.Independent (ω := ω) Product.Cipher.perform product
  | .hash product =>
    product.kind ≠ .gost → Turn.Independent (ω := ω) Product.Hash.perform product
  | .mac product =>
    product.kind ≠ .hmacGost → Turn.Independent (ω := ω) Product.Mac.perform product
  | .scheme product =>
    product.kind ≠ .gost → Turn.Independent (ω := ω) Product.Scheme.perform product
  | .random _ => True

/-- Whether nothing comes from a product of an instance's engine or of its generator any more. -/
def Spent (s : Process ω) : Made → Prop
  | .cipher _ => True
  | .hash product =>
    product.kind = .gost → ∀ stream operation, operation.asks = true →
      Product.Fails ({ product with stream }.perform operation) operation.buffer s
  | .mac product =>
    product.kind = .hmacGost → ∀ operation, operation.asks = true →
      Product.Fails (product.perform operation) operation.buffer s
  | .scheme product =>
    product.kind = .gost → ∀ operation, Product.Fails (product.perform operation) none s
  | .random product => ∀ count, product.generate count s = (.error .generatorUnavailable, s)

variable {owned : Subsystems ω} {made : Made}

theorem MadeOf.lasting [Memory ω] (madeOf : made.MadeOf owned) : made.Lasting ω := by
  cases madeOf with
  | cipher product => exact .of_idle (fun _ => True) (fun other _ => other.idle_perform) trivial
  | scheme product builtin =>
    exact fun _ => .of_idle (·.kind ≠ .gost) Product.Scheme.idle_perform builtin
  | suiteScheme digest place part => exact fun builtin => absurd rfl builtin
  | hash kind digest builtin =>
    exact fun _ => .of_idle (·.source = .builtin digest) (Product.Hash.idle_perform digest) rfl
  | suiteHash digest place part => exact fun builtin => absurd rfl builtin
  | hmac kind digest builtin =>
    refine fun _ => .of_idle (· = .hmac kind (.builtin digest)) ?_ rfl
    rintro _ rfl
    exact Product.Mac.idle_perform (Product.Mac.idle_sign_builtin kind digest)
  | cmac family =>
    refine fun _ => .of_idle (· = .cmac family) ?_ rfl
    rintro _ rfl
    exact Product.Mac.idle_perform (Product.Mac.idle_sign_cmac family)
  | suiteHmac digest place part => exact fun builtin => absurd rfl builtin
  | random place part => trivial

theorem MadeOf.spent {s : Process ω} (madeOf : made.MadeOf owned)
    (lost : ∀ need : Need, need.PartOf owned → need.Lost s) : made.Spent s := by
  cases madeOf with
  | cipher product => trivial
  | scheme product builtin => exact fun same => absurd same builtin
  | suiteScheme digest place part =>
    exact fun _ => Product.Scheme.fails_of_lost digest (lost (.suite place) part)
  | hash kind digest builtin => exact fun same => absurd same builtin
  | suiteHash digest place part =>
    exact fun _ stream _ => Product.Hash.fails_of_lost digest (lost (.suite place) part) _ stream
  | hmac kind digest builtin => exact fun same => absurd same builtin
  | cmac family => cases family <;> exact nofun
  | suiteHmac digest place part =>
    exact fun _ _ => Product.Mac.fails_of_lost digest (lost (.suite place) part) _
  | random place part => exact Product.Random.generate_of_lost (lost (.generator place) part)

end Factory.Made

namespace Factory

/-- From the reset of its instance on, no product of the instance's engine or generator has a
result in any state; all other products have the replies that they would have had without it. -/
theorem products_after_reset [Memory ω] (outside : ω) (hosts : List Locking.Host)
    (before : List (Step ω)) (number : Nat) (request : Request) (made : Made)
    (obtained : (dispatch number request
      (after before (Process.launch outside hosts))).1 = .ok made) :
    made.Lasting ω ∧ ∀ later : List (Step ω),
      isReset (after (before ++ later) (Process.launch outside hosts)) number = true →
        made.Spent (after (before ++ later) (Process.launch outside hosts)) := by
  obtain ⟨owned, owns, madeOf⟩ := madeOf_of_dispatch obtained
  have steady : Steady false [] (after before (Process.launch outside hosts)) :=
    steady_after (by simp) (steady_launch outside hosts)
  refine ⟨madeOf.lasting, fun later gone => madeOf.spent fun need part => ?_⟩
  rw [after_append] at gone ⊢
  rcases remains_after steady owns part later with lives | ⟨_, lost⟩
  · rw [isReset, lives] at gone
    cases gone
  · exact lost

-- A hash product of the engine, whose instance is reset; the same engine is attached again.
theorem products_after_reset_willing :
    (dispatch 0 (.hash .gost) (after [Willing.demand] (Process.launch () [Willing.host]))).1 =
      .ok (.hash ⟨.gost, ⟨Digest.sha256, some 0⟩, none⟩) ∧
    isReset (after ([Willing.demand] ++ [.reset, Willing.demand])
      (Process.launch () [Willing.host])) 0 = true ∧
    Product.Fails ((Product.Hash.mk .gost ⟨Digest.sha256, some 0⟩ none).perform
        (.hash .served [1, 2, 3] (some [9, 9])))
      (some [9, 9])
      (after ([Willing.demand] ++ [.reset, Willing.demand]) (Process.launch () [Willing.host])) := by
  have spent := (products_after_reset () [Willing.host] [Willing.demand] 0 (.hash .gost)
    (.hash ⟨.gost, ⟨Digest.sha256, some 0⟩, none⟩) rfl).2 [.reset, Willing.demand] rfl
  exact ⟨rfl, rfl, spent rfl none (.hash .served [1, 2, 3] (some [9, 9])) rfl⟩

end Factory

end CryptoProvider
