import CryptoProvider.Proofs.Product.Verification

/-!
What hash and tag products do to a buffer of their caller. Without a buffer only the size is told. A
result goes to the front of the buffer and leaves the bytes behind it; if it does not fit, or there
is none, the buffer stays as it is.

All three calls deliver an outcome that does not depend on the buffer (`Written.deliver`), so the
contract (`Written.Honest`) is proved once, of that.
-/

set_option autoImplicit false

namespace CryptoProvider

variable {ω : Type}

namespace Product

namespace Written

/-- What a call owes its caller for a buffer, where `computed` is the result as bytes. -/
structure Honest (size : Nat) (computed : Except Error Bytes) (s : Process ω)
    (call : Option Bytes → Written × Process ω) : Prop where
  asked : (call none).1 = ⟨.ok size, none⟩
  written : ∀ buffer count, (call (some buffer)).1.result = .ok count →
    count = size ∧ size ≤ buffer.length ∧ ∃ result, computed = .ok result ∧
      result.length = size ∧ (call (some buffer)).1.buffer = some (result ++ buffer.drop size)
  /-- If there is a result, it is refused for want of room only. -/
  refused : ∀ buffer result, computed = .ok result → ∀ cause,
    (call (some buffer)).1.result = .error cause ↔
      buffer.length < size ∧ cause = .invalidParameter (.outputTooSmall buffer.length size)
  impossible : ∀ buffer failure, computed = .error failure →
    (call (some buffer)).1.result = .error failure
  unchanged : ∀ buffer cause, (call (some buffer)).1.result = .error cause →
    (call (some buffer)).1.buffer = some buffer
  still : ∀ output, (call output).2 = s

theorem copy_of_short {result buffer : Bytes} (short : buffer.length < result.length) :
    copy result buffer =
      failed (.invalidParameter (.outputTooSmall buffer.length result.length)) (some buffer) :=
  if_pos short

theorem copy_of_room {result buffer : Bytes} (room : result.length ≤ buffer.length) :
    copy result buffer = ⟨.ok result.length, some (result ++ buffer.drop result.length)⟩ := by
  rw [copy, if_neg (Nat.not_lt.mpr room), Bytes.overwrite_of_room room]

/-- Whatever delivers an outcome that the buffer has no part in is honest. -/
theorem Honest.of_deliver {size : Nat} {computed : Except Error Bytes} {s : Process ω}
    {call : Option Bytes → Written × Process ω} (asked : call none = (⟨.ok size, none⟩, s))
    (delivers : ∀ buffer, call (some buffer) = (deliver computed buffer, s))
    (fits : ∀ result, computed = .ok result → result.length = size) :
    Honest size computed s call := by
  have still (output : Option Bytes) : (call output).2 = s := by
    cases output with
    | none => rw [asked]
    | some buffer => rw [delivers]
  cases computed with
  | error failure =>
    have fails (buffer : Bytes) : call (some buffer) = (failed failure (some buffer), s) :=
      delivers buffer
    constructor <;> simp [asked, fails, failed, still]
  | ok result =>
    obtain rfl := fits result rfl
    have copies (buffer : Bytes) : (call (some buffer)).1 = copy result buffer :=
      congrArg Prod.fst (delivers buffer)
    constructor
    case asked => rw [asked]
    case impossible => exact nofun
    case still => exact still
    case written =>
      intro buffer count done
      rw [copies] at done ⊢
      rcases Nat.lt_or_ge buffer.length result.length with short | room
      · simp [copy_of_short short, failed] at done
      · rw [copy_of_room room, Except.ok.injEq] at done
        exact ⟨done.symm, room, result, rfl, rfl, by rw [copy_of_room room]⟩
    case refused =>
      intro buffer given same cause
      rw [copies]
      rcases Nat.lt_or_ge buffer.length result.length with short | room
      · simp [copy_of_short short, failed, short, eq_comm]
      · simp [copy_of_room room, Nat.not_lt.mpr room]
    case unchanged =>
      intro buffer cause refused
      rw [copies] at refused ⊢
      rcases Nat.lt_or_ge buffer.length result.length with short | room
      · simp [copy_of_short short, failed]
      · simp [copy_of_room room] at refused

end Written

namespace Hash

variable (product : Hash) (response : Response) (s : Process ω)

/-- What a call comes to that hashes data, at once or at the end of a stream. -/
def digestOf (data : Bytes) : Except Error Bytes :=
  response.outcome (product.source.available s) (product.source.digest.hash data)

theorem length_digestOf (data result : Bytes)
    (made : product.digestOf response s data = .ok result) : result.length = product.size :=
  response.length_outcome (product.source.digest.length_hash data) _ result made

theorem hash_eq (data buffer : Bytes) :
    product.hash response data (some buffer) s =
      (.deliver (product.digestOf response s data) buffer, s) :=
  product.source.during_eq _ s

theorem hashBytes_eq (data : Bytes) :
    product.hashBytes response data s = (product.digestOf response s data, s) := by
  have hashed := product.hash_eq response s data (List.replicate product.size 0)
  have read := Written.toBytes_deliver (product.length_digestOf response s data)
  exact (bind_of_idle hashed).trans (congrArg (·, s) read)

theorem start_eq :
    product.start response s = (product.startWith response (product.source.available s), s) :=
  product.source.during_eq _ s

theorem update_eq (piece : Bytes) :
    product.update response piece s =
      (product.updateWith response piece (product.source.available s), s) :=
  product.source.during_eq _ s

variable {product}

theorem finish_of_stream {data : Bytes}
    (streams : product.stream = some (product.source.digest.update product.source.digest.fresh data))
    (buffer : Bytes) :
    product.finish response (some buffer) s =
      ((.deliver (product.digestOf response s data) buffer,
        { product with stream := none }), s) := by
  simp only [finish, streams]
  exact bind_of_idle (product.source.during_eq _ s)

theorem finish_of_none (streams : product.stream = none) (buffer : Bytes) :
    product.finish response (some buffer) s =
      ((.failed (.invalidState .hashNotStarted) (some buffer), product), s) := by
  simp only [finish, streams]
  rfl

/-- Products with an open stream, and the data that it stands for: it was started, and fed piece by
piece, in whatever states of the process. A piece that the library failed to feed leaves others. -/
inductive Opened (ω : Type) : Hash → Bytes → Prop where
  | start {product : Hash} {response : Response} {s : Process ω}
      (started : (product.start response s).1.1 = .ok ()) :
    Opened ω (product.start response s).1.2 []
  | update {product : Hash} {data : Bytes} {response : Response} {s : Process ω}
      (opened : Opened ω product data) (piece : Bytes)
      (fed : (product.update response piece s).1.1 = .ok ()) :
    Opened ω (product.update response piece s).1.2 (data ++ piece)
  | broken {product : Hash} {data left : Bytes} {s : Process ω} (opened : Opened ω product data)
      (piece : Bytes)
      (failed : (product.update (.failed left) piece s).1.1 = .error .cryptoLibrary) :
    Opened ω (product.update (.failed left) piece s).1.2 left

/-- An open stream is that of the data, however they were cut. -/
theorem Opened.stream {data : Bytes} (opened : Opened ω product data) :
    product.stream = some (product.source.digest.update product.source.digest.fresh data) := by
  induction opened with
  | @start product response s started =>
    rw [start_eq] at started ⊢
    cases available : product.source.available s with
    | false => simp [startWith, Response.outcome, available] at started
    | true =>
      cases response with
      | failed left => simp [startWith, Response.outcome, available] at started
      | served => rfl
  | @update product data response s opened piece fed ih =>
    rw [update_eq] at fed ⊢
    cases available : product.source.available s with
    | false => simp [updateWith, available] at fed
    | true =>
      cases response with
      | failed left => simp [updateWith, available, ih] at fed
      | served => simp [updateWith, ih, Digest.update_append]
  | @broken product data left s opened piece failed ih =>
    rw [update_eq] at failed ⊢
    cases available : product.source.available s with
    | false => simp [updateWith, available] at failed
    | true => simp [updateWith, ih]

end Hash

/-- Hash and tag products keep the contract of their buffers, however the library takes the call: in
one call, at the end of a stream whatever it was fed before, and where there is no stream to end.
Nothing changes but the buffer, and the stream that is ended. -/
theorem buffers_honest {ciphers : CipherSuite} (lawful : ciphers.Lawful) (response : Response)
    (s : Process ω) :
    (∀ (product : Hash) data, ∃ digest, product.hashBytes response data s = (digest, s) ∧
      Written.Honest product.size digest s fun output => product.hash response data output s) ∧
    (∀ (product : Hash) data, product.Opened ω data →
      ∃ digest, product.hashBytes response data s = (digest, s) ∧
        Written.Honest product.size digest s fun output =>
          ((product.finish response output s).1.1, (product.finish response output s).2)) ∧
    (∀ product : Hash, product.stream = none →
      Written.Honest product.size (.error (.invalidState .hashNotStarted)) s fun output =>
        ((product.finish response output s).1.1, (product.finish response output s).2)) ∧
    (∀ product : Hash, (product.finish response none s).1.2 = product) ∧
    ∀ (product : Mac) key data, ∃ tag, product.signBytes ciphers response key data s = (tag, s) ∧
      Written.Honest product.size tag s fun output =>
        product.sign ciphers response key data output s := by
  refine ⟨fun product data => ?_, fun product data opened => ?_, fun product closed => ?_,
    fun _ => rfl, fun product key data => ?_⟩
  · exact ⟨_, product.hashBytes_eq response s data,
      .of_deliver rfl (product.hash_eq response s data) (product.length_digestOf response s data)⟩
  · have finished := Hash.finish_of_stream response s opened.stream
    refine ⟨_, product.hashBytes_eq response s data,
      .of_deliver rfl (fun buffer => ?_) (product.length_digestOf response s data)⟩
    rw [finished]
  · have finished := Hash.finish_of_none response s closed
    refine .of_deliver rfl (fun buffer => ?_) nofun
    rw [finished]
    rfl
  · exact ⟨_, Mac.signBytes_eq lawful product response key data s,
      .of_deliver rfl (fun buffer => product.sign_eq ciphers response key data buffer s)
        (Mac.length_tag lawful product response _ key data)⟩

-- A tag for which one byte is missing; the end of a stream for which there is one too many; and the
-- end of one that the library fails.
theorem buffers_honest_off_by_one :
    let s := Process.launch () []
    let signed := ((Mac.cmac .aes).sign .standard .served (List.replicate 16 1) [2]
      (some (List.replicate 15 7)) s).1
    let opened := ((Hash.mk .sha256 (.builtin .sha256) none).start .served s).1.2
    let failed := (opened.finish (.failed []) (some (List.replicate 32 7)) s).1.1
    CipherSuite.standard.Lawful ∧ opened.Opened Unit [] ∧
      signed.result = .error (.invalidParameter (.outputTooSmall 15 16)) ∧
      signed.buffer = some (List.replicate 15 7) ∧
      (∃ digest, (opened.hashBytes .served [] s).1 = .ok digest ∧ digest.length = 32 ∧
        (opened.finish .served (some (List.replicate 33 7)) s).1.1.buffer =
          some (digest ++ [7])) ∧
      failed.result = .error .cryptoLibrary ∧ failed.buffer = some (List.replicate 32 7) := by
  intro s signed opened failed
  have lawful := CipherSuite.standard_lawful
  have started : opened.Opened Unit [] := .start rfl
  obtain ⟨-, streams, -, -, tags⟩ := buffers_honest lawful .served s
  obtain ⟨tag, signs, honest⟩ := tags (.cmac .aes) (List.replicate 16 1) [2]
  obtain ⟨digest, hashes, ends⟩ := streams opened [] started
  obtain ⟨broken, breaks, fails⟩ := (buffers_honest lawful (.failed []) s).2.1 opened [] started
  have given : ∃ result, tag = .ok result := by
    rw [Mac.signBytes_eq lawful, Prod.mk.injEq] at signs
    rw [← signs.1]
    simp [Mac.tag, CmacFamily.cipher, Except.bind, Response.outcome]
  have made : ∃ result, digest = .ok result := by
    rw [Hash.hashBytes_eq, Prod.mk.injEq] at hashes
    exact ⟨_, hashes.1.symm⟩
  have refused : broken = .error .cryptoLibrary := by
    rw [Hash.hashBytes_eq, Prod.mk.injEq] at breaks
    exact breaks.1.symm
  obtain ⟨tag, rfl⟩ := given
  obtain ⟨digest, rfl⟩ := made
  have short : signed.result = .error (.invalidParameter (.outputTooSmall 15 16)) :=
    (honest.refused (List.replicate 15 7) tag rfl _).mpr ⟨by decide, rfl⟩
  have impossible : failed.result = .error .cryptoLibrary :=
    fails.impossible (List.replicate 32 7) _ refused
  refine ⟨lawful, started, short, honest.unchanged (List.replicate 15 7) _ short, ?_, impossible,
    fails.unchanged (List.replicate 32 7) _ impossible⟩
  cases done : (opened.finish .served (some (List.replicate 33 7)) s).1.1.result with
  | error cause =>
    have refused := ends.refused (List.replicate 33 7) digest rfl cause
    exact absurd (refused.mp done).1 (by decide)
  | ok count =>
    obtain ⟨-, -, result, same, size, buffer⟩ := ends.written (List.replicate 33 7) count done
    exact ⟨result, (congrArg Prod.fst hashes).trans same, size, buffer⟩

end Product

end CryptoProvider
