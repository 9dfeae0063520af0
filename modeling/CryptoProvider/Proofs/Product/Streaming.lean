import CryptoProvider.Proofs.Digest.Blocks
import CryptoProvider.Proofs.Factory.Agreement
import CryptoProvider.Proofs.Factory.Aftermath
import CryptoProvider.Proofs.Factory.Passing

/-!
Hash products as their callers may think of them. Whatever is called on such a product, and whatever
happens in between, it behaves as if it kept the data that were fed to it and hashed them at once:
how they were cut does not matter, nor what was hashed meanwhile.
-/

set_option autoImplicit false

namespace CryptoProvider

open Factory Digest

variable {ω : Type}

namespace Product

/-! The products' one-shot view: all that such a machine keeps is the data it was fed. -/

/-- The data fed since the stream was started; none if no stream is open. -/
abbrev Fed := Option Bytes

namespace Fed

variable (digest : Digest)

/-- What a call does. An update that the library fails leaves the stream with other data. -/
def serve (available : Bool) (fed : Fed) : Hash.Operation → Reply × Fed
  | .hash _ _ none | .finish _ none => (.written ⟨.ok digest.size, none⟩, fed)
  | .hash response data (some buffer) =>
    (.written (.deliver (response.outcome available (digest.ofBlocks data)) buffer), fed)
  | .hashBytes response data => (.bytes (response.outcome available (digest.ofBlocks data)), fed)
  | .start response =>
    match response.outcome available [] with
    | .ok nothing => (.done (.ok ()), some nothing)
    | .error cause => (.done (.error cause), fed)
  | .update response data =>
    if available then
      match fed, response with
      | none, _ => (.done (.error (.invalidState .hashNotStarted)), none)
      | some earlier, .served => (.done (.ok ()), some (earlier ++ data))
      | some _, .failed left => (.done (.error .cryptoLibrary), some left)
    else (.done (.error .instanceReset), none)
  | .finish response (some buffer) =>
    match fed with
    | none => (.written (.failed (.invalidState .hashNotStarted) (some buffer)), none)
    | some data =>
      (.written (.deliver (response.outcome available (digest.ofBlocks data)) buffer), none)

/-- The same as a program, which finds out whether the digest can be used and changes nothing. -/
def perform (available : Process ω → Bool) (fed : Fed) (operation : Hash.Operation) :
    StateM (Process ω) (Reply × Fed) :=
  fun s => (serve digest (available s) fed operation, s)

end Fed

/-- Whether the digest of a source can be used. -/
def Source.available (source : Source) (s : Process ω) : Bool :=
  source.suite.all fun place => s.suites[place]?.any (·.holders ≠ 0)

-- An operation leaves the suite as it took it up.
theorem Source.during_eq {α : Type} (source : Source) (operation : Bool → α) (s : Process ω) :
    source.during operation s = (operation (source.available s), s) := by
  obtain ⟨digest, suite⟩ := source
  cases suite with
  | none => rfl
  | some place =>
    cases found : s.suites[place]? with
    | none =>
      have none : acquireSuite? place s = (none, s) := by
        rw [acquireSuite?_eq, found]
        rfl
      have unavailable : (Source.mk digest (some place)).acquire s = (false, s) := bind_of_idle none
      rw [show (Source.mk digest (some place)).available s = false by simp [available, found]]
      exact bind_of_idle unavailable
    | some shared =>
      by_cases unheld : shared.holders = 0
      · have lost : (Need.suite place).Lost s := by simp [Need.Lost, found, unheld]
        rw [Source.during_of_lost digest lost]
        simp [available, found, unheld]
      · have taken : acquireSuite? place s =
            (some shared.suite, (setSuiteHolders place (shared.holders + 1) s).2) := by
          rw [acquireSuite?_eq, found]
          simp only [unheld, if_false]
          rfl
        have held : (Source.mk digest (some place)).available s = true := by
          simp [available, found, unheld]
        have released := releaseSuite_of_taken found unheld
          (t := (setSuiteHolders place (shared.holders + 1) s).2) rfl
        rw [held]
        unfold during acquire release
        simp only [bind_apply, taken]
        exact congrArg (Prod.mk (operation true)) released

/-- A result fills a buffer of its length. -/
theorem Written.copy_whole {size : Nat} {result : Bytes} (fits : result.length = size) :
    Written.copy result (List.replicate size 0) = ⟨.ok size, some result⟩ := by
  have all : result.take size = result := List.take_of_length_le (Nat.le_of_eq fits)
  simp [Written.copy, Bytes.overwrite, fits, all]

theorem Written.toBytes_deliver {outcome : Except Error Bytes} {size : Nat}
    (fits : ∀ result, outcome = .ok result → result.length = size) :
    (Written.deliver outcome (List.replicate size 0)).toBytes = outcome := by
  cases outcome with
  | error cause => rfl
  | ok result =>
    have whole := fits result rfl
    rw [Written.deliver, Written.copy_whole whole]
    exact congrArg Except.ok (List.take_of_length_le (Nat.le_of_eq whole))

/-- There is a result if nothing went wrong only, and it is the one that was made. -/
theorem Response.outcome_eq_ok {α : Type} {response : Response} {available : Bool}
    {made result : α} : response.outcome available made = .ok result ↔
      available = true ∧ response = .served ∧ made = result := by
  cases available <;> cases response <;> simp [outcome]

theorem Response.length_outcome {size : Nat} {made : Bytes} (fits : made.length = size)
    (response : Response) (available : Bool) (result : Bytes)
    (given : response.outcome available made = .ok result) : result.length = size := by
  obtain ⟨-, -, rfl⟩ := outcome_eq_ok.mp given
  exact fits

namespace Hash

/-- The product that holds a stream of the data fed to it. -/
def holding (kind : HashKind) (source : Source) (fed : Fed) : Hash :=
  ⟨kind, source, fed.map (source.digest.update source.digest.fresh)⟩

variable (kind : HashKind) (source : Source) (fed : Fed)

/-- A call on a product does what it does to the data fed, and nothing to the process. -/
theorem perform_holding (operation : Hash.Operation) (s : Process ω) :
    (holding kind source fed).perform operation s =
      let (reply, left) := Fed.serve source.digest (source.available s) fed operation
      ((reply, holding kind source left), s) := by
  have during : ∀ {α : Type} (operation : Bool → α),
      source.during operation s = (operation (source.available s), s) :=
    fun operation => source.during_eq operation s
  cases operation with
  | hash response data output =>
    cases output with
    | none => rfl
    | some buffer =>
      have hashed : (holding kind source fed).hash response data (some buffer) s =
          (.deliver (response.outcome (source.available s) (source.digest.ofBlocks data)) buffer,
            s) := by
        rw [hash, holding, during, ← hash_eq_ofBlocks]
        rfl
      exact bind_of_idle hashed
  | hashBytes response data =>
    have hashed : (holding kind source fed).hashBytes response data s =
        (response.outcome (source.available s) (source.digest.ofBlocks data), s) := by
      have fits := response.length_outcome (source.digest.length_hash data) (source.available s)
      rw [← hash_eq_ofBlocks]
      exact (bind_of_idle (during _)).trans (congrArg (·, s) (Written.toBytes_deliver fits))
    exact bind_of_idle hashed
  | start response =>
    have started : (holding kind source fed).start response s =
        ((holding kind source fed).startWith response (source.available s), s) := during _
    refine (bind_of_idle started).trans ?_
    cases source.available s with
    | false => rfl
    | true => cases response <;> rfl
  | update response data =>
    have updated : (holding kind source fed).update response data s =
        ((holding kind source fed).updateWith response data (source.available s), s) := during _
    refine (bind_of_idle updated).trans ?_
    cases source.available s with
    | false => rfl
    | true =>
      cases fed with
      | none => rfl
      | some earlier =>
        cases response with
        | failed left => rfl
        | served =>
          have appended := source.digest.update_append source.digest.fresh earlier data
          exact congrArg
            (fun stream => ((Reply.done (.ok ()), Hash.mk kind source (some stream)), s))
            appended.symm
  | finish response output =>
    cases output with
    | none => rfl
    | some buffer =>
      cases fed with
      | none => rfl
      | some data =>
        have finished : (holding kind source (some data)).finish response (some buffer) s =
            ((.deliver (response.outcome (source.available s) (source.digest.ofBlocks data)) buffer,
              holding kind source none), s) := by
          refine (bind_of_idle (during _)).trans ?_
          rw [← hash_eq_ofBlocks]
          rfl
        exact bind_of_idle finished

theorem replies_holding [Memory ω] (turns : List (Turn ω Hash.Operation)) (s : Process ω) :
    Turn.replies Hash.perform turns (holding kind source fed) s =
      Turn.replies (Fed.perform source.digest source.available) turns fed s := by
  induction turns generalizing fed s with
  | nil => rfl
  | cons turn turns ih =>
    cases turn with
    | step between => exact ih fed (between.run s).2
    | call operation =>
      simp only [Turn.replies, perform_holding, Fed.perform]
      exact congrArg (List.cons _) (ih _ s)

end Hash

/-- The bytes that a reply brings, if it brings any. -/
def Reply.digest? : Reply → Option Bytes
  | .written outcome => outcome.result.toOption.bind fun count => outcome.buffer.map (·.take count)
  | .bytes outcome => outcome.toOption
  | _ => none

namespace Hash.Operation

/-- Whether an open stream goes on. -/
def continues : Hash.Operation → Bool
  | .start _ | .finish _ (some _) => false
  | _ => true

/-- Whether the library feeds a stream what it is to be fed. -/
def served : Hash.Operation → Bool
  | .update (.failed _) _ => false
  | _ => true

/-- What a call feeds. -/
def fed : Hash.Operation → Bytes
  | .update _ data => data
  | _ => []

end Hash.Operation

end Product

namespace Turn

variable {Operation : Type}

def step? : Turn ω Operation → Option (Step ω)
  | .step between => some between
  | .call _ => none

/-- The state that the steps come to, if the calls change nothing. -/
def passed [Memory ω] (turns : List (Turn ω Operation)) (s : Process ω) : Process ω :=
  after (turns.filterMap step?) s

end Turn

namespace Product.Fed

open Turn

variable {digest : Digest} {available other : Process ω → Bool} {s : Process ω}

/-- All that is fed meanwhile, however it is cut. -/
def fedBy (turns : List (Turn ω Hash.Operation)) : Bytes :=
  (turns.filterMap call?).flatMap Hash.Operation.fed

theorem replies_congr [Memory ω] (same : ∀ steps, available (after steps s) = other (after steps s))
    (turns : List (Turn ω Hash.Operation)) (fed : Fed) :
    replies (perform digest available) turns fed s =
      replies (perform digest other) turns fed s := by
  induction turns generalizing fed s with
  | nil => rfl
  | cons turn turns ih =>
    cases turn with
    | step between => exact ih (fun steps => same (between :: steps)) fed
    | call operation =>
      have now : available s = other s := same []
      simp only [replies, perform, now]
      exact congrArg (List.cons _) (ih same _)

theorem digest?_of_unavailable (fed : Fed) (operation : Hash.Operation) :
    (serve digest false fed operation).1.digest? = none := by
  cases operation with
  | hash response data output => cases output <;> rfl
  | hashBytes response data => rfl
  | start response => rfl
  | update response data => rfl
  | finish response output =>
    cases output with
    | none => rfl
    | some buffer => cases fed <;> rfl

theorem digest?_of_lost [Memory ω] (lost : ∀ steps, available (after steps s) = false)
    (turns : List (Turn ω Hash.Operation)) (fed : Fed) :
    ∀ reply ∈ replies (perform digest available) turns fed s, reply.digest? = none := by
  induction turns generalizing fed s with
  | nil => simp [replies]
  | cons turn turns ih =>
    cases turn with
    | step between => exact ih (fun steps => lost (between :: steps)) fed
    | call operation =>
      have now : available s = false := lost []
      simp only [replies, perform, now, List.mem_cons, forall_eq_or_imp]
      exact ⟨digest?_of_unavailable fed operation, ih lost _⟩

/-- Once the digest is lost for good, no reply brings one. -/
theorem digest?_of_lost_after [Memory ω] {earlier later : List (Turn ω Hash.Operation)}
    (lost : ∀ steps, available (after steps (passed earlier s)) = false) (fed : Fed) :
    ∀ reply ∈ (replies (perform digest available) (earlier ++ later) fed s).drop
      (earlier.filterMap call?).length, reply.digest? = none := by
  induction earlier generalizing fed s with
  | nil => exact digest?_of_lost lost later fed
  | cons turn earlier ih =>
    cases turn with
    | step between => exact ih lost fed
    | call operation => exact ih lost _

/-- As long as a stream goes on, what it is fed is appended, however it is cut. -/
theorem replies_finish [Memory ω] (digest : Digest) {turns : List (Turn ω Hash.Operation)}
    (usable : ∀ steps, steps <+: turns.filterMap step? → available (after steps s) = true)
    (goesOn : ∀ operation ∈ turns.filterMap call?, operation.continues = true)
    (served : ∀ operation ∈ turns.filterMap call?, operation.served = true)
    (data buffer : Bytes) :
    (replies (perform digest available) (turns ++ [.call (.finish .served (some buffer))])
      (some data) s).getLast? =
      some (.written (.copy (digest.ofBlocks (data ++ fedBy turns)) buffer)) := by
  induction turns generalizing data s with
  | nil =>
    have now : available s = true := usable [] (List.nil_prefix)
    simp [replies, perform, serve, Written.deliver, Response.outcome, now, fedBy]
  | cons turn turns ih =>
    cases turn with
    | step between =>
      refine ih (fun steps early => usable (between :: steps) ?_) goesOn served data
      exact List.cons_prefix_cons.mpr ⟨rfl, early⟩
    | call operation =>
      have now : available s = true := usable [] (List.nil_prefix)
      have going : operation.continues = true := goesOn operation (by simp [call?])
      have fed : operation.served = true := served operation (by simp [call?])
      have kept : (serve digest true (some data) operation).2 = some (data ++ operation.fed) := by
        cases operation with
        | hash response other output => cases output <;> simp [serve, Hash.Operation.fed]
        | hashBytes response other => simp [serve, Hash.Operation.fed]
        | start response => cases going
        | update response more =>
          cases response with
          | served => rfl
          | failed left => cases fed
        | finish response output =>
          cases output with
          | none => simp [serve, Hash.Operation.fed]
          | some buffer => cases going
      have later := ih usable (fun other mine => goesOn other (List.mem_cons_of_mem _ mine))
        (fun other mine => served other (List.mem_cons_of_mem _ mine)) (data ++ operation.fed)
      rw [List.append_assoc] at later
      simp only [List.cons_append, replies, perform, now, kept]
      rw [List.getLast?_cons, later]
      rfl

end Product.Fed

namespace Factory

open Product

variable {s : Process ω} {number place : Nat} {owned : Subsystems ω}

/-- The digest behind a kind of hash: builtin, or that of the instance's suite. -/
def digest? (s : Process ω) (number : Nat) : HashKind → Option Digest
  | .gost => do
    let owned ← subsystems? s number
    let shared ← s.suites[← owned.suite]?
    return shared.suite.digest
  | kind => builtinDigest? kind

/-- Whether a product of this kind still has its digest. -/
def usable (kind : HashKind) (number : Nat) (s : Process ω) : Bool :=
  kind ≠ .gost || !isReset s number

theorem available_after [Memory ω] (steady : Steady false [] s)
    (owns : subsystems? s number = some owned)
    (part : owned.suite = some place) (digest : Digest) (steps : List (Step ω)) :
    (Source.mk digest (some place)).available (after steps s) =
      !isReset (after steps s) number := by
  have mine : (Need.suite place).PartOf owned := part
  have remains := remains_after steady owns mine steps
  rcases remains with lives | ⟨gone, lost⟩
  · have later : Steady false [] (after steps s) := steady_after (by simp) steady
    obtain ⟨shared, found, held⟩ := suite_found later lives part
    simp [Source.available, isReset, lives, found, held]
  · obtain ⟨shared, found, unheld⟩ := Option.map_eq_some_iff.mp lost
    simp [Source.available, isReset, gone, found, unheld]

theorem dispatch_builtin_hash (owns : subsystems? s number = some owned) {kind : HashKind}
    {digest : Digest} (found : builtinDigest? kind = some digest) :
    dispatch number (.hash kind) s = (.ok (.hash ⟨kind, .builtin digest, none⟩), s) := by
  cases kind with
  | unknown | gost => cases found
  | _ =>
    cases found
    exact answer_of_live .hash owns rfl

theorem hash_given [Memory ω] (steady : Steady false [] s) {kind : HashKind} {product : Hash}
    (obtained : (dispatch number (.hash kind) s).1 = .ok (.hash product)) :
    ∃ source, product = .holding kind source none ∧ digest? s number kind = some source.digest ∧
      ∀ steps, source.available (after steps s) = usable kind number (after steps s) := by
  obtain ⟨owned, owns, _⟩ := madeOf_of_dispatch obtained
  cases kind with
  | unknown =>
    rw [dispatch_unknown owns rfl rfl (by simp)] at obtained
    cases obtained
  | gost =>
    cases part : owned.suite with
    | none =>
      rw [dispatch_without_suite owns part rfl] at obtained
      cases obtained
    | some place =>
      obtain ⟨shared, found, _⟩ := suite_found steady owns part
      have answer : dispatch number (.hash .gost) s =
          (.ok (.hash (Hash.ofSuite place shared.suite)), s) :=
        answer_of_live .hash owns (fromSuite_of_found part found _ _)
      rw [answer] at obtained
      cases obtained
      have known : digest? s number .gost = some shared.suite.digest := by
        simp [digest?, owns, part, found]
      exact ⟨_, rfl, known, available_after steady owns part shared.suite.digest⟩
  | md5 | sha1 | sha224 | sha256 | sha384 | sha512 =>
    rw [dispatch_builtin_hash owns rfl] at obtained
    cases obtained
    exact ⟨_, rfl, rfl, fun _ => rfl⟩

-- An instance that lives has lived since it was built.
theorem usable_before [Memory ω] (owns : subsystems? s number = some owned) {kind : HashKind}
    {early all : List (Step ω)} (first : early <+: all)
    (still : usable kind number (after all s) = true) :
    usable kind number (after early s) = true := by
  obtain ⟨late, rfl⟩ := first
  rw [after_append] at still
  have bound : number < (after early s).instances.length :=
    Nat.lt_of_lt_of_le (bound_of_owns owns) (later_after early s).grows
  cases lives : subsystems? (after late (after early s)) number with
  | none =>
    have builtin : kind ≠ .gost := by simpa [usable, isReset, lives] using still
    simp [usable, builtin]
  | some parts =>
    have before := (later_after late (after early s)).owned number bound parts lives
    simp [usable, isReset, before]

/-- Every hash product is like one that keeps the data fed to it and hashes them at once: the
replies to all calls are the same, whatever happens in between, and depend on whether its instance
was reset and on how the library takes the calls only. Once it was, an engine's product yields no
digest any more; and until then a stream that the library feeds and finishes yields the digest of all
that it was fed. -/
theorem streaming_refines_one_shot [Memory ω] (outside : ω) (hosts : List Locking.Host)
    (before : List (Step ω)) (number : Nat) (kind : HashKind) (product : Hash)
    (obtained : (dispatch number (.hash kind)
      (after before (Process.launch outside hosts))).1 = .ok (.hash product)) :
    let s := after before (Process.launch outside hosts)
    ∃ digest, digest? s number kind = some digest ∧
      (∀ turns, Turn.replies Hash.perform turns product s =
        Turn.replies (Fed.perform digest (usable kind number)) turns none s) ∧
      (∀ earlier later, kind = .gost → isReset (Turn.passed earlier s) number = true →
        ∀ reply ∈ (Turn.replies Hash.perform (earlier ++ later) product s).drop
          (earlier.filterMap Turn.call?).length, reply.digest? = none) ∧
      (∀ turns buffer, usable kind number (Turn.passed turns s) = true →
        (∀ operation ∈ turns.filterMap Turn.call?, operation.continues = true) →
        (∀ operation ∈ turns.filterMap Turn.call?, operation.served = true) →
        (Turn.replies Hash.perform
          (.call (.start .served) :: turns ++ [.call (.finish .served (some buffer))])
          product s).getLast? =
        some (.written (.copy (digest.ofBlocks (Fed.fedBy turns)) buffer))) := by
  intro s
  have steady : Steady false [] s := steady_after (by simp) (steady_launch outside hosts)
  obtain ⟨source, rfl, known, available⟩ := hash_given steady obtained
  have refines : ∀ turns, Turn.replies Hash.perform turns (Hash.holding kind source none) s =
      Turn.replies (Fed.perform source.digest (usable kind number)) turns none s := by
    intro turns
    rw [Hash.replies_holding, Fed.replies_congr available]
  obtain ⟨owned, owns, _⟩ := madeOf_of_dispatch obtained
  refine ⟨source.digest, known, refines, fun earlier later engine gone => ?_,
    fun turns buffer still goesOn served => ?_⟩
  · subst engine
    have lost : ∀ steps,
        usable .gost number (after steps (Turn.passed earlier s)) = false := by
      intro steps
      cases still : usable .gost number (after steps (Turn.passed earlier s)) with
      | false => rfl
      | true =>
        rw [Turn.passed, ← after_append] at still
        have before := usable_before owns (List.prefix_append _ steps) still
        rw [usable, ← Turn.passed, gone] at before
        cases before
    rw [refines]
    exact Fed.digest?_of_lost_after lost none
  · have now : usable kind number s = true := usable_before owns List.nil_prefix still
    have all : ∀ steps, steps <+: turns.filterMap Turn.step? →
        usable kind number (after steps s) = true :=
      fun steps early => usable_before owns early still
    have finished := Fed.replies_finish source.digest all goesOn served [] buffer
    rw [refines]
    simp only [List.cons_append, Turn.replies, Fed.perform, Fed.serve, Response.outcome, now,
      if_true]
    rw [List.getLast?_cons, finished]
    rfl

-- A product of the engine: one stream is cut by one-shot calls, of which the library fails one, and
-- another by the reset.
theorem streaming_refines_one_shot_willing :
    let s := after [Willing.demand] (Process.launch () [Willing.host])
    let product : Hash := ⟨.gost, ⟨Digest.sha256, some 0⟩, none⟩
    (dispatch 0 (.hash .gost) s).1 = .ok (.hash product) ∧
    (∀ buffer, (Turn.replies Hash.perform
      (.call (.start .served) :: [.call (.update .served [1]), .call (.hashBytes .served [9]),
          .call (.hashBytes (.failed []) [9]), .call (.update .served [2, 3])] ++
        [.call (.finish .served (some buffer))]) product s).getLast? =
      some (.written (.copy (Digest.sha256.ofBlocks [1, 2, 3]) buffer))) ∧
    ∀ reply ∈ (Turn.replies Hash.perform
      ([.call (.start .served), .call (.update .served [1]), .step .reset] ++
        [.call (.update .served [2, 3]), .call (.start .served), .call (.hashBytes .served [9])])
      product s).drop 2,
      reply.digest? = none := by
  intro s product
  obtain ⟨digest, known, _, lost, finished⟩ := streaming_refines_one_shot () [Willing.host]
    [Willing.demand] 0 .gost product rfl
  obtain rfl : Digest.sha256 = digest := Option.some.inj known
  exact ⟨rfl, fun buffer => finished
      [.call (.update .served [1]), .call (.hashBytes .served [9]),
        .call (.hashBytes (.failed []) [9]), .call (.update .served [2, 3])] buffer rfl (by decide)
      (by decide),
    lost [.call (.start .served), .call (.update .served [1]), .step .reset] _ rfl rfl⟩

end Factory

end CryptoProvider
