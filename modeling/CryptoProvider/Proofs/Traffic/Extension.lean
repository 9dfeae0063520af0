import CryptoProvider.Proofs.Traffic.Lifetime

/-!
Operations that begin after the reset of their instance has returned. One operation that is still in
flight lets the next begin, so a chain of overlapping operations keeps an engine or a generator up for
as long as it lasts; from when none is in flight, every operation fails for good.
-/

set_option autoImplicit false

namespace CryptoProvider.Factory

open Product

variable {ω : Type}

/-! What an operation answers when nobody has what it asks for. -/

def failure? {α : Type} : Except Error α → Option Error
  | .error cause => some cause
  | .ok _ => none

namespace Use

/-- Whether an operation asks for what its product needs. It does not where it answers before: with a
size, or with a refusal of the call as it was made. -/
def asks : Use → Bool
  | hash _ _ _ output => output.isSome
  | hashFinish product _ output => output.isSome && product.stream.isSome
  | mac _ _ _ key _ output => output.isSome && !key.isEmpty
  | generateKey _ _ _ parameters => parameters = .standard
  | hashStart _ _ | hashUpdate _ _ _ | sign _ _ _ _ _ | verify _ _ _ _ _ | random _ _ => true

/-- The error that an operation answers with, if it fails. -/
def cause? (use : Use) (s : Process ω) : Option Error :=
  match use with
  | hash product response data output => failure? (product.hash response data output s).1.result
  | hashStart product response => failure? (product.start response s).1.1
  | hashUpdate product response data => failure? (product.update response data s).1.1
  | hashFinish product response output => failure? (product.finish response output s).1.1.result
  | mac product ciphers response key data output =>
    failure? (product.sign ciphers response key data output s).1.result
  | generateKey product library seed parameters =>
    failure? (product.generateKey library seed parameters s).1
  | sign product library seed key data => failure? (product.sign library seed key data s).1
  | verify product library key data signature =>
    failure? (product.verify library key data signature s).1
  | random product count => failure? (product.generate count s).1

end Use

section

variable {s : Process ω} {need : Need} {place : Nat}

theorem Need.lost_iff : need.Lost s ↔ need.Known s ∧ need.holders s = 0 := by
  cases need with
  | suite place =>
    by_cases bound : place < s.suites.length
    · simp [Lost, Known, holders, bound]
    · simp [Lost, Known, bound]
  | generator place =>
    by_cases bound : place < s.generators.length
    · simp [Lost, Known, holders, bound]
    · simp [Lost, Known, bound]

theorem during_of_lost {source : Source} (lost : need.Lost s)
    (needs : source.suite.map .suite = some need) {α : Type} (operation : Bool → α) :
    (source.during operation s).1 = operation false ∧ need.failure = .instanceReset := by
  obtain ⟨digest, suite⟩ := source
  obtain ⟨place, rfl, rfl⟩ := Option.map_eq_some_iff.mp needs
  exact ⟨congrArg Prod.fst (Source.during_of_lost digest lost operation), rfl⟩

theorem withDigest_of_lost {source : Source} (lost : need.Lost s)
    (needs : source.suite.map .suite = some need) {α : Type} (operation : KeyOperation)
    (run : Option Digest → Option α) :
    failure? ((Scheme.gost source).withDigest operation run s).1 = some need.failure := by
  obtain ⟨refused, failure⟩ := during_of_lost lost needs fun available =>
    if available then Scheme.answered (run (some source.digest)) else .error .instanceReset
  rw [failure]
  exact congrArg failure? refused

theorem Use.cause?_of_lost {use : Use} (lost : need.Lost s) (needs : use.product.need? = some need)
    (asks : use.asks = true) : use.cause? s = some need.failure := by
  cases use with
  | hash product response data output =>
    cases output with
    | none => cases asks
    | some buffer =>
      obtain ⟨refused, failure⟩ := during_of_lost lost needs (product.hashWith response data buffer)
      rw [failure]
      exact congrArg (fun written => failure? written.result) refused
  | hashStart product response =>
    obtain ⟨refused, failure⟩ := during_of_lost lost needs (product.startWith response)
    rw [failure]
    exact congrArg (fun started => failure? started.1) refused
  | hashUpdate product response data =>
    obtain ⟨refused, failure⟩ := during_of_lost lost needs (product.updateWith response data)
    rw [failure]
    exact congrArg (fun updated => failure? updated.1) refused
  | hashFinish product response output =>
    obtain ⟨kind, source, stream⟩ := product
    cases output with
    | none => cases asks
    | some buffer =>
      cases stream with
      | none => cases asks
      | some stream =>
        obtain ⟨refused, failure⟩ := during_of_lost lost needs
          (Hash.finishWith ⟨kind, source, some stream⟩ response stream buffer)
        rw [failure]
        exact congrArg (fun written => failure? written.result) refused
  | mac product ciphers response key data output =>
    cases output with
    | none => cases asks
    | some buffer =>
      cases product with
      | hmac kind source =>
        obtain ⟨refused, failure⟩ := during_of_lost lost needs
          (Mac.hmacWith source response key data buffer)
        have nonempty : key.isEmpty = false := by simpa [Use.asks] using asks
        rw [failure, cause?, Mac.sign]
        simp only [nonempty]
        exact congrArg (fun written => failure? written.result) refused
      | cmac family => cases needs
  | generateKey product library seed parameters =>
    cases product with
    | gost source =>
      obtain ⟨digest, suite⟩ := source
      obtain ⟨place, same, rfl⟩ := Option.map_eq_some_iff.mp needs
      obtain rfl : suite = some place := same
      obtain rfl : parameters = .standard := of_decide_eq_true asks
      have refused : (Scheme.suiteKey place s).1 = .error .instanceReset :=
        congrArg Prod.fst (bind_of_idle (acquireSuite?_of_lost lost))
      exact congrArg failure? refused
    | _ => cases needs
  | sign product library seed key data =>
    cases product with
    | gost source => exact withDigest_of_lost lost needs .signing _
    | _ => cases needs
  | verify product library key data signature =>
    cases product with
    | gost source => exact withDigest_of_lost lost needs .verification _
    | _ => cases needs
  | random product count =>
    cases needs
    have refused := congrArg Prod.fst (Random.generate_of_lost lost count)
    exact congrArg failure? refused

theorem Made.spent_of_lost {made : Made} (lost : need.Lost s) (needs : made.need? = some need) :
    made.Spent s := by
  cases made with
  | cipher product => trivial
  | scheme product =>
    cases product with
    | gost source =>
      obtain ⟨digest, suite⟩ := source
      obtain ⟨place, same, rfl⟩ := Option.map_eq_some_iff.mp needs
      obtain rfl : suite = some place := same
      exact fun _ => Scheme.fails_of_lost digest lost
    | _ => cases needs
  | hash product =>
    obtain ⟨kind, ⟨digest, suite⟩, stream⟩ := product
    obtain ⟨place, same, rfl⟩ := Option.map_eq_some_iff.mp needs
    obtain rfl : suite = some place := same
    exact fun _ stream _ => Hash.fails_of_lost digest lost kind stream
  | mac product =>
    cases product with
    | hmac kind source =>
      obtain ⟨digest, suite⟩ := source
      obtain ⟨place, same, rfl⟩ := Option.map_eq_some_iff.mp needs
      obtain rfl : suite = some place := same
      exact fun _ _ => Mac.fails_of_lost digest lost kind
    | cmac family => cases needs
  | random product =>
    cases needs
    exact Random.generate_of_lost lost

end

namespace Traffic

/-- What a product needs is gone for good: no operation has it or gets it, whatever is asked of the
product fails, and whoever asks for what it needs is told why. -/
structure Barred (t : Traffic ω) (made : Made) (need : Need) : Prop where
  idle : ¬ t.InFlight need
  refused : (need.acquire? t.process).1 = none
  spent : made.Spent t.process
  told : ∀ use : Use, use.product.need? = some need → use.asks = true →
    use.cause? t.process = some need.failure

variable {t : Traffic ω} {frame : List Ledger.Entry} {number : Nat} {made : Made} {need : Need}

theorem InOrder.barred (order : InOrder frame t) (lost : need.Lost t.process)
    (needs : made.need? = some need) : t.Barred made need := by
  have unheld := (Need.lost_iff.mp lost).2
  have idle : ¬ t.InFlight need := fun flies => (order.holders_iff need).mpr (.inr flies) unheld
  refine ⟨idle, ?_, Made.spent_of_lost lost needs, fun _ same asks => Use.cause?_of_lost lost same asks⟩
  have refused := mt (need.acquire?_isSome t.process).mp (not_not_intro unheld)
  simpa using refused

/-- After the reset of its instance has returned, an operation on a product begins exactly if another
one holds what it needs; and from when none does, every operation fails, now and for ever. -/
theorem begins_after_reset [Memory ω] (outside : ω) (hosts : List Locking.Host)
    (moves : List (Move ω)) (number : Nat) (made : Made) (need : Need)
    (issued : (number, made) ∈ (after moves (launch outside hosts)).products)
    (needs : made.need? = some need)
    (returned : (after moves (launch outside hosts)).Returned number) :
    ((need.acquire? (after moves (launch outside hosts)).process).1.isSome = true ↔
      (after moves (launch outside hosts)).InFlight need) ∧
    (¬ (after moves (launch outside hosts)).InFlight need → ∀ more : List (Move ω),
      (after (moves ++ more) (launch outside hosts)).Barred made need) := by
  have order := (InOrder.launch outside hosts).after moves
  have attributed := attributed_after (InOrder.launch outside hosts)
    (fun _ _ issued => absurd issued List.not_mem_nil) moves
  have sole := attributed number made issued need needs
  have begins : (need.acquire? (after moves (launch outside hosts)).process).1.isSome = true ↔
      (after moves (launch outside hosts)).InFlight need := by
    rw [order.begins_iff need, or_iff_right]
    rintro ⟨other, keeps⟩
    exact sole.unkept returned other keeps
  refine ⟨begins, fun idle more => ?_⟩
  have unheld := not_not.mp (mt (need.acquire?_isSome _).mpr (mt begins.mp idle))
  have lost := Need.lost_iff.mpr ⟨sole.known, unheld⟩
  rw [after_append]
  exact (order.after more).barred (lost.later (later_after more _)) needs

end Traffic

-- With one hash in flight another begins; after both have ended, and with a new instance, none does.
theorem begins_after_reset_overlapping :
    ((Need.suite 0).acquire? (Traffic.after ([.demand (pure Willing.options)] ++ Willing.overlapping)
      (Traffic.launch () [Willing.host])).process).1.isSome = true ∧
    (Use.hashStart ⟨.gost, ⟨Digest.sha256, some 0⟩, none⟩ .served).cause? (Traffic.after
      (([.demand (pure Willing.options)] ++ Willing.overlapping ++ [.finish 0]) ++
        [.demand (pure Willing.options)]) (Traffic.launch () [Willing.host])).process =
          some .instanceReset := by
  have overlapped := Traffic.begins_after_reset () [Willing.host]
    ([.demand (pure Willing.options)] ++ Willing.overlapping) 0
    (.hash ⟨.gost, ⟨Digest.sha256, some 0⟩, none⟩) (.suite 0) List.mem_cons_self rfl
    (Traffic.returned_of_free rfl rfl)
  have ended := Traffic.begins_after_reset () [Willing.host]
    ([.demand (pure Willing.options)] ++ Willing.overlapping ++ [.finish 0]) 0
    (.hash ⟨.gost, ⟨Digest.sha256, some 0⟩, none⟩) (.suite 0) List.mem_cons_self rfl
    (Traffic.returned_of_free rfl rfl)
  have flies : (Traffic.after ([.demand (pure Willing.options)] ++ Willing.overlapping)
      (Traffic.launch () [Willing.host])).flights.map Hold.need = [.suite 0] := rfl
  have idle : (Traffic.after
      ([.demand (pure Willing.options)] ++ Willing.overlapping ++ [.finish 0])
      (Traffic.launch () [Willing.host])).flights.map Hold.need = [] := rfl
  refine ⟨overlapped.1.mpr ?_, (ended.2 ?_ _).told _ rfl rfl⟩
  · have member := List.mem_singleton_self (Need.suite 0)
    rw [← flies] at member
    exact List.mem_map.mp member
  · intro still
    have member := List.mem_map.mpr still
    rw [idle] at member
    cases member

/-- An operation begins after the reset of its instance has returned, and keeps the engine up after the
operation has ended that was in flight at the reset. -/
theorem begins_past_reset :
    (Traffic.after ([.demand (pure Willing.options)] ++ Willing.overlapping)
      (Traffic.launch () [Willing.host])).Returned 0 ∧
    (Traffic.after ([.demand (pure Willing.options)] ++ Willing.overlapping ++ [.begin 0])
      (Traffic.launch () [Willing.host])).flights.map Hold.need = [.suite 0, .suite 0] ∧
    givenBack ⟨7, "gost"⟩ (Traffic.after
      ([.demand (pure Willing.options)] ++ Willing.overlapping ++ [.begin 0, .finish 1])
      (Traffic.launch () [Willing.host])).process.calls = [] := by
  refine ⟨Traffic.returned_of_free rfl rfl, rfl, ?_⟩
  decide

/-- A key of the suite that is asked for with other parameters than the standard ones is refused for
these before the suite is looked at, so also after the reset of its instance. -/
theorem Use.cause?_of_parameters {source : Source} {parameters : KeyParameters}
    (other : parameters ≠ .standard) (library : Key.Library) (seed : Nat) (s : Process ω) :
    (Use.generateKey (.gost source) library seed parameters).cause? s =
      some (.invalidParameter .fixedParameterSet) := by
  simp only [cause?, Scheme.generateKey, if_neg other]
  rfl

end CryptoProvider.Factory
