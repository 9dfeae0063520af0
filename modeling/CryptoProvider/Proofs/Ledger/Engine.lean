import CryptoProvider.Engine.HardwareRandom
import CryptoProvider.Engine.Suite
import CryptoProvider.Proofs.Ledger.Accounts

/-!
Engines in the accounts. Bringing an engine up adds one started handle or nothing, whichever of
its steps fails; dropping a handle takes it out.
-/

set_option autoImplicit false

namespace CryptoProvider

open Ledger

variable {ω : Type} {rest : List Entry} {contents : Slots ω}

namespace Engine.Handle

def entry (handle : Handle ω) : Entry :=
  (handle.engine.number,
    if handle.started then .engineStarted handle.engine else .engineFound handle.engine)

theorem entry_started {handle : Handle ω} (started : handle.started = true) :
    handle.entry = (handle.engine.number, .engineStarted handle.engine) := by
  rw [entry, if_pos started]

theorem entry_found {handle : Handle ω} (found : handle.started = false) :
    handle.entry = (handle.engine.number, .engineFound handle.engine) := by
  rw [entry, found]
  rfl

/-- A started handle is on the books, or nothing new is. -/
def Attached {α : Type} (handle : α → Handle ω) (rest : List Entry) (contents : Slots ω) :
    Except Error α → Platform ω → Prop
  | .ok attached, s =>
    (handle attached).started = true ∧ Books ((handle attached).entry :: rest) contents s
  | .error _, s => Books rest contents s

theorem books_find (api : EngineApi ω) (id : String) :
    Ensures (Books rest contents) (find api id) fun found s =>
      match found with
      | .ok handle => handle.started = false ∧ Books (handle.entry :: rest) contents s
      | .error _ => Books rest contents s := by
  unfold find
  refine Ensures.bind Books.consult fun exists? => ?_
  cases exists? with
  | true =>
    refine Ensures.bind Books.fresh fun number => ?_
    refine Ensures.bind (Books.record_one (Leads.find ⟨number, id⟩) rfl) fun _ => ?_
    exact Ensures.pure fun s books => ⟨rfl, books⟩
  | false =>
    refine Ensures.bind (Books.record_none rfl) fun _ => ?_
    refine Ensures.bind Books.note fun _ => ?_
    exact Ensures.pure fun s books => books

theorem books_drop (handle : Handle ω) :
    Ensures (Books (handle.entry :: rest) contents) handle.drop fun _ => Books rest contents := by
  unfold drop
  by_cases started : handle.started
  · rw [entry_started started]
    simp only [started, if_true]
    refine Ensures.bind (Books.record_one (Leads.finish handle.engine) rfl) fun _ => ?_
    refine Ensures.bind Books.consult fun _ => ?_
    refine Ensures.bind (Books.record_one (Leads.free_finished handle.engine) rfl) fun _ => ?_
    exact Ensures.weaken Books.consult fun _ _ books => books.discharge
  · rw [entry_found (Bool.eq_false_iff.mpr started)]
    simp only [started]
    refine Ensures.bind (Books.record_one (Leads.free_found handle.engine) rfl) fun _ => ?_
    exact Ensures.weaken Books.consult fun _ _ books => books.discharge

theorem books_stepFailed (handle : Handle ω) (step : Step) :
    Ensures (Books rest contents) (handle.stepFailed step) fun _ => Books rest contents := by
  unfold stepFailed
  refine Ensures.bind Books.note fun _ => ?_
  exact Ensures.pure fun _ books => books

theorem books_start {handle : Handle ω} (found : handle.started = false) :
    Ensures (Books (handle.entry :: rest) contents) handle.start fun started s =>
      match started with
      | .ok next => next.started = true ∧ Books (next.entry :: rest) contents s
      | .error _ => Books (handle.entry :: rest) contents s := by
  unfold start
  refine Ensures.bind Books.consult fun done => ?_
  rw [entry_found found]
  cases done with
  | true =>
    refine Ensures.bind (Books.record_one (Leads.start handle.engine) rfl) fun _ => ?_
    exact Ensures.pure fun _ books => ⟨rfl, books⟩
  | false =>
    refine Ensures.bind (Books.record_one (Leads.refuse handle.engine) rfl) fun _ => ?_
    refine Ensures.bind (books_stepFailed handle .start) fun _ => ?_
    exact Ensures.pure fun _ books => books

section

variable {handle : Handle ω} (started : handle.started = true)
include started

theorem books_use {reported : Bool} {call : Call} (uses : usesEngine handle.engine call)
    (about : call.subjects = [handle.engine.number]) :
    Ensures (Books (handle.entry :: rest) contents) (Platform.record reported call) fun _ =>
      Books (handle.entry :: rest) contents := by
  rw [entry_started started]
  exact Books.record_one (Leads.use uses) about

theorem books_setDefault (methods : Nat) :
    Ensures (Books (handle.entry :: rest) contents) (handle.setDefault methods) fun _ =>
      Books (handle.entry :: rest) contents := by
  unfold setDefault
  refine Ensures.bind (books_use started (by simp [usesEngine]) rfl) fun _ => ?_
  exact Books.consult

theorem books_digest? (algorithm : Int) :
    Ensures (Books (handle.entry :: rest) contents) (handle.digest? algorithm) fun _ =>
      Books (handle.entry :: rest) contents := by
  unfold digest?
  refine Ensures.bind (books_use started (by simp [usesEngine]) rfl) fun _ => ?_
  exact Books.consult

theorem books_registerKeys :
    Ensures (Books (handle.entry :: rest) contents) handle.registerKeys fun _ =>
      Books (handle.entry :: rest) contents := by
  unfold registerKeys
  refine Ensures.bind (books_use started (by simp [usesEngine]) rfl) fun _ => ?_
  exact Books.consult

theorem books_control (request : Option (String × String)) :
    Ensures (Books (handle.entry :: rest) contents) (handle.control request) fun _ =>
      Books (handle.entry :: rest) contents := by
  cases request with
  | none => exact Ensures.pure fun _ books => books
  | some request =>
    unfold control
    refine Ensures.bind (books_use started (by simp [usesEngine]) rfl) fun _ => ?_
    exact Books.consult

end

end Engine.Handle

namespace Engine.HardwareRandom

theorem books_attach (api : EngineApi ω) :
    Ensures (Books rest contents) (attach api)
      (Handle.Attached HardwareRandom.handle rest contents) := by
  unfold attach
  refine Ensures.bind (Books.record_none rfl) fun _ => ?_
  refine Ensures.bind Books.consult fun _ => ?_
  refine Ensures.bind (Handle.books_find api randomEngine) fun found => ?_
  cases found with
  | error cause => exact Ensures.pure fun _ books => books
  | ok found =>
    refine Ensures.given fun idle => ?_
    refine Ensures.bind (Handle.books_start idle) fun started => ?_
    cases started with
    | error cause =>
      refine Ensures.bind (Handle.books_drop found) fun _ => ?_
      exact Ensures.pure fun _ books => books
    | ok handle =>
      refine Ensures.given fun started => ?_
      refine Ensures.bind (Handle.books_setDefault started randomMethod) fun agreed => ?_
      cases agreed with
      | true =>
        refine Ensures.bind Books.note fun _ => ?_
        exact Ensures.pure fun _ books => ⟨started, books⟩
      | false =>
        refine Ensures.bind (Handle.books_stepFailed handle .setDefault) fun _ => ?_
        refine Ensures.bind (Handle.books_drop handle) fun _ => ?_
        exact Ensures.pure fun _ books => books

end Engine.HardwareRandom

namespace Engine.Suite

theorem books_configure {handle : Handle ω} (started : handle.started = true)
    (config : SuiteConfig) :
    Ensures (Books (handle.entry :: rest) contents) (configure handle config) fun configured s =>
      match configured with
      | .ok suite => suite.handle = handle ∧ Books (handle.entry :: rest) contents s
      | .error _ => Books (handle.entry :: rest) contents s := by
  unfold configure
  refine Ensures.bind (Handle.books_digest? started suiteDigest) fun digest => ?_
  cases digest with
  | none =>
    refine Ensures.bind (Handle.books_stepFailed handle .digest) fun _ => ?_
    exact Ensures.pure fun _ books => books
  | some digest =>
    refine Ensures.bind (Handle.books_registerKeys started) fun registered => ?_
    cases registered with
    | false =>
      refine Ensures.bind (Handle.books_stepFailed handle .registerKeys) fun _ => ?_
      exact Ensures.pure fun _ books => books
    | true =>
      refine Ensures.bind (Handle.books_control started config.control) fun controlled => ?_
      cases controlled with
      | true => exact Ensures.pure fun _ books => ⟨rfl, books⟩
      | false =>
        refine Ensures.bind (Handle.books_stepFailed handle .control) fun _ => ?_
        exact Ensures.pure fun _ books => books

theorem books_attach (api : EngineApi ω) (config : SuiteConfig) :
    Ensures (Books rest contents) (attach api config)
      (Handle.Attached Suite.handle rest contents) := by
  unfold attach
  refine Ensures.bind (Books.record_none rfl) fun _ => ?_
  refine Ensures.bind Books.consult fun _ => ?_
  refine Ensures.bind (Handle.books_find api config.id) fun found => ?_
  cases found with
  | error cause => exact Ensures.pure fun _ books => books
  | ok found =>
    refine Ensures.given fun idle => ?_
    refine Ensures.bind (Handle.books_start idle) fun started => ?_
    cases started with
    | error cause =>
      refine Ensures.bind (Handle.books_drop found) fun _ => ?_
      exact Ensures.pure fun _ books => books
    | ok handle =>
      refine Ensures.given fun started => ?_
      refine Ensures.bind (books_configure started config) fun configured => ?_
      cases configured with
      | error cause =>
        refine Ensures.bind (Handle.books_drop handle) fun _ => ?_
        exact Ensures.pure fun _ books => books
      | ok suite =>
        refine Ensures.given fun same => ?_
        refine Ensures.bind Books.note fun _ => ?_
        exact Ensures.pure fun _ books => by
          rw [Handle.Attached, same]
          exact ⟨started, books⟩

theorem books_requestKey {suite : Suite ω} (started : suite.handle.started = true)
    (algorithm : Int) (parameters : List (String × String)) :
    Ensures (Books (suite.handle.entry :: rest) contents) (suite.requestKey algorithm parameters)
      fun _ => Books (suite.handle.entry :: rest) contents := by
  unfold requestKey
  refine Ensures.bind (Handle.books_use started (by simp [usesEngine]) rfl) fun _ => ?_
  exact Books.consult

end Engine.Suite

end CryptoProvider
