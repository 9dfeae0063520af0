import CryptoProvider.Proofs.Factory.Run
import CryptoProvider.Proofs.Ledger.Calm
import CryptoProvider.Proofs.Likeness.Process

/-!
What passes without a trace. Asking for products and using them leaves the process as it is, but for
what the operator and the collaborators are told; unless an engine or a generator resets the factory
in the midst of it, and then it is the reset that changed something.
-/

set_option autoImplicit false

namespace CryptoProvider

open Ledger

variable {ω : Type}

namespace Factory

/-- Nothing was changed but who holds the shared objects. -/
structure Reshelved (s t : Process ω) : Prop where
  slots : slots t.toPlatform = slots s.toPlatform
  owned : subsystems? t = subsystems? s
  length : t.instances.length = s.instances.length
  current : t.current = s.current

/-- Nothing was changed at all, but for handles, notices and calls. -/
structure Unmoved (s t : Process ω) : Prop extends Reshelved s t where
  next : t.next = s.next
  suites : t.suites = s.suites
  generators : t.generators = s.generators

namespace Reshelved

variable {r s t : Process ω}

theorem refl (s : Process ω) : Reshelved s s :=
  ⟨rfl, rfl, rfl, rfl⟩

theorem trans (first : Reshelved r s) (second : Reshelved s t) : Reshelved r t :=
  ⟨second.slots.trans first.slots, second.owned.trans first.owned,
    second.length.trans first.length, second.current.trans first.current⟩

theorem of_calm {α : Type} {operation : StateM (Platform ω) α} (calm : Calm operation)
    (s : Process ω) : Reshelved s (Process.onPlatform operation s).2 :=
  ⟨calm s.toPlatform, rfl, rfl, rfl⟩

end Reshelved

namespace Unmoved

variable {r s t : Process ω}

theorem refl (s : Process ω) : Unmoved s s :=
  ⟨.refl s, rfl, rfl, rfl⟩

theorem trans (first : Unmoved r s) (second : Unmoved s t) : Unmoved r t :=
  ⟨first.toReshelved.trans second.toReshelved, second.next.trans first.next,
    second.suites.trans first.suites, second.generators.trans first.generators⟩

theorem of_alike (alike : Process.Alike s t) : Unmoved s t :=
  ⟨⟨alike.platform.slots.symm, alike.owned.symm, alike.length.symm, alike.current.symm⟩,
    alike.platform.next.symm, alike.suites.symm, alike.generators.symm⟩

-- A platform operation that gives out no number.
theorem of_calm {α : Type} {operation : StateM (Platform ω) α} (calm : Calm operation)
    (same : ∀ platform, (operation platform).2.next = platform.next) (s : Process ω) :
    Unmoved s (Process.onPlatform operation s).2 :=
  ⟨.of_calm calm s, same s.toPlatform, rfl, rfl⟩

end Unmoved

/-- From every process, a program leaves nothing behind. -/
def Passes {α : Type} (program : StateM (Process ω) α) : Prop :=
  ∀ s, Unmoved s (program s).2

namespace Passes

variable {α β : Type}

theorem pure (value : α) : Passes (Pure.pure value : StateM (Process ω) α) :=
  Unmoved.refl

theorem bind {program : StateM (Process ω) α} {rest : α → StateM (Process ω) β}
    (first : Passes program) (next : ∀ value, Passes (rest value)) : Passes (program >>= rest) := by
  intro s
  rw [bind_apply]
  exact (first s).trans (next _ _)

theorem record (reported : Bool) (call : Call) :
    Passes (Process.onPlatform (ω := ω) (Platform.record reported call)) :=
  Unmoved.of_calm (.record _ _) fun _ => rfl

theorem consult (answer : StateM ω α) : Passes (Process.onPlatform (Platform.consult answer)) :=
  Unmoved.of_calm (.consult _) fun _ => rfl

end Passes

/-- From every process, a program does nothing but tell the operator something. -/
def Tells {α : Type} (program : StateM (Process ω) α) : Prop :=
  ∀ s, Process.Alike s (program s).2

namespace Tells

variable {α β : Type}

theorem pure (value : α) : Tells (Pure.pure value : StateM (Process ω) α) :=
  Process.Alike.refl

theorem bind {program : StateM (Process ω) α} {rest : α → StateM (Process ω) β}
    (first : Tells program) (next : ∀ value, Tells (rest value)) : Tells (program >>= rest) := by
  intro s
  rw [bind_apply]
  exact (first s).trans (next _ _)

theorem read {rest : Process ω → StateM (Process ω) β}
    (next : ∀ s, Process.Alike s (rest s s).2) : Tells (MonadState.get >>= rest) :=
  next

theorem note (notice : Notice) : Tells (Process.onPlatform (ω := ω) (Platform.note notice)) :=
  fun s => (Process.Alike.refl s).onPlatform (Platform.alike_note _ _)

end Tells

theorem tells_live (number : Nat) : Tells (ω := ω) (live number) := by
  refine Tells.read fun s => ?_
  cases subsystems? s number with
  | some owned => exact .refl s
  | none => exact Tells.bind (.note _) (fun _ => .pure _) s

theorem tells_refuseKind {α : Type} (label : String) :
    Tells (ω := ω) (refuseKind (α := α) label) :=
  .bind (.note _) fun _ => .pure _

theorem tells_fromSuite {α : Type} (owned : Subsystems ω) (label : String)
    (make : Nat → Engine.Suite ω → α) : Tells (fromSuite owned label make) := by
  refine Tells.read fun s => ?_
  cases owned.suite.bind fun number => s.suites[number]?.map fun shared => (number, shared) with
  | some found => exact .refl s
  | none => exact Tells.bind (.note _) (fun _ => .pure _) s

section

variable (number : Nat)

theorem tells_cipher (kind : CipherKind) : Tells (ω := ω) (cipher number kind) := by
  refine .bind (tells_live number) fun owned => ?_
  cases owned with
  | error cause => exact .pure _
  | ok owned =>
    cases kind with
    | unknown => exact tells_refuseKind _
    | _ => exact .pure _

theorem tells_scheme (kind : SchemeKind) : Tells (ω := ω) (scheme number kind) := by
  refine .bind (tells_live number) fun owned => ?_
  cases owned with
  | error cause => exact .pure _
  | ok owned =>
    cases kind with
    | gost => exact tells_fromSuite owned _ _
    | unknown => exact tells_refuseKind _
    | _ => exact .pure _

theorem tells_hash (kind : HashKind) : Tells (ω := ω) (hash number kind) := by
  refine .bind (tells_live number) fun owned => ?_
  cases owned with
  | error cause => exact .pure _
  | ok owned =>
    cases kind with
    | gost => exact tells_fromSuite owned _ _
    | unknown => exact tells_refuseKind _
    | _ => exact .pure _

theorem tells_mac (kind : MacKind) : Tells (ω := ω) (mac number kind) := by
  refine .bind (tells_live number) fun owned => ?_
  cases owned with
  | error cause => exact .pure _
  | ok owned =>
    cases kind with
    | hmacGost => exact tells_fromSuite owned _ _
    | unknown => exact tells_refuseKind _
    | _ => exact .pure _

theorem tells_random (kind : GeneratorKind) : Tells (ω := ω) (random number kind) := by
  cases kind with
  | unknown => exact .bind (.note _) fun _ => .pure _
  | standard =>
    refine .bind (tells_live number) fun owned => ?_
    cases owned with
    | error cause => exact .pure _
    | ok owned =>
      dsimp only
      cases owned.generator with
      | none => exact .pure _
      | some generator => exact .pure _

/-- Asking for a product has no effect but notices. -/
theorem tells_dispatch (request : Request) : Tells (ω := ω) (dispatch number request) := by
  cases request with
  | cipher kind => exact .bind (tells_cipher number kind) fun _ => .pure _
  | scheme kind => exact .bind (tells_scheme number kind) fun _ => .pure _
  | hash kind => exact .bind (tells_hash number kind) fun _ => .pure _
  | mac kind => exact .bind (tells_mac number kind) fun _ => .pure _
  | random kind => exact .bind (tells_random number kind) fun _ => .pure _

theorem passes_dispatch (request : Request) : Passes (ω := ω) (dispatch number request) :=
  fun s => .of_alike (tells_dispatch number request s)

end

/-! An operation takes a shared object up and lets it go again. -/

-- A place that is changed and changed back is as it was.
theorem modify_restored {α : Type} {objects : List α} {place : Nat} {object : α}
    (found : objects[place]? = some object) {change back : α → α}
    (restores : back (change object) = object) :
    (objects.modify place change).modify place back = objects := by
  apply List.ext_getElem?
  intro other
  by_cases here : other = place
  · subst here
    simp [found, restores]
  · simp [Ne.symm here]

/-- Nothing was left behind, or the factory was reset and nothing else. -/
inductive Passed (s t : Process ω) : Prop where
  | unmoved (unmoved : Unmoved s t)
  | reset (before : Process ω) (early : Reshelved s before) (late : Reshelved (reset before).2 t)

section

variable {s t : Process ω} {number : Nat}

theorem acquireSuite?_eq (number : Nat) (s : Process ω) :
    acquireSuite? number s =
      (match s.suites[number]? with
        | none => pure none
        | some shared => do
          if shared.holders = 0 then return none
          setSuiteHolders number (shared.holders + 1)
          return some shared.suite : StateM (Process ω) (Option (Engine.Suite ω))) s :=
  rfl

theorem acquireSuite?_cases (s : Process ω) (number : Nat) :
    acquireSuite? number s = (none, s) ∨
      ∃ shared, s.suites[number]? = some shared ∧ shared.holders ≠ 0 ∧
        acquireSuite? number s =
          (some shared.suite, (setSuiteHolders number (shared.holders + 1) s).2) := by
  rw [acquireSuite?_eq]
  cases s.suites[number]? with
  | none => exact .inl rfl
  | some shared =>
    by_cases unheld : shared.holders = 0
    · simp only [unheld, if_true]
      exact .inl rfl
    · simp only [unheld, if_false]
      exact .inr ⟨shared, rfl, unheld, rfl⟩

theorem releaseSuite_eq (number : Nat) (s : Process ω) :
    releaseSuite number s =
      match s.suites[number]? with
      | none => ((), s)
      | some shared =>
        (if shared.holders = 1 then Process.onPlatform shared.suite.drop else pure ())
          (setSuiteHolders number (shared.holders - 1) s).2 := by
  have read : releaseSuite number s =
      (match s.suites[number]? with
        | none => pure ()
        | some shared => do
          setSuiteHolders number (shared.holders - 1)
          if shared.holders = 1 then Process.onPlatform shared.suite.drop :
        StateM (Process ω) Unit) s := rfl
  rw [read]
  cases s.suites[number]? with
  | none => rfl
  | some shared => rfl

theorem reshelved_releaseSuite (number : Nat) (s : Process ω) :
    Reshelved s (releaseSuite number s).2 := by
  rw [releaseSuite_eq]
  cases s.suites[number]? with
  | none => exact .refl s
  | some shared =>
    have counted : Reshelved s (setSuiteHolders number (shared.holders - 1) s).2 :=
      ⟨rfl, rfl, rfl, rfl⟩
    dsimp only
    split
    · exact counted.trans (.of_calm shared.suite.handle.calm_drop _)
    · exact counted

theorem dismissSuite_eq (number : Nat) (s : Process ω) :
    dismissSuite number s =
      (match s.suites[number]? with
        | none => pure ()
        | some shared => do
          if 1 < shared.holders then
            Process.onPlatform (Platform.note (.engineInUse shared.suite.id))
          releaseSuite number : StateM (Process ω) Unit) s :=
  rfl

theorem releaseSuite_of_last {shared : SharedSuite ω} (found : s.suites[number]? = some shared)
    (last : shared.holders = 1) :
    releaseSuite number s =
      Process.onPlatform shared.suite.drop (setSuiteHolders number 0 s).2 := by
  rw [releaseSuite_eq, found]
  dsimp only
  rw [if_pos last, last]

theorem releaseSuite_of_taken {shared : SharedSuite ω}
    (found : s.suites[number]? = some shared) (held : shared.holders ≠ 0)
    (taken : t.suites = (setSuiteHolders number (shared.holders + 1) s).2.suites) :
    (releaseSuite number t).2 = { t with suites := s.suites } := by
  have stands : t.suites[number]? = some { shared with holders := shared.holders + 1 } := by
    rw [taken]
    change (s.suites.modify number _)[number]? = _
    simp [found]
  have others : ¬ shared.holders + 1 = 1 := by omega
  rw [releaseSuite_eq, stands]
  dsimp only
  rw [if_neg others]
  change { t with suites := t.suites.modify number _ } = { t with suites := s.suites }
  rw [taken]
  congr 1
  exact modify_restored found rfl

/-- What passes while a suite is held passes with the suite taken up before and let go after. -/
theorem Passed.holding_suite {shared : SharedSuite ω} (found : s.suites[number]? = some shared)
    (held : shared.holders ≠ 0)
    (passed : Passed (setSuiteHolders number (shared.holders + 1) s).2 t) :
    Passed s (releaseSuite number t).2 := by
  have taken : Reshelved s (setSuiteHolders number (shared.holders + 1) s).2 := ⟨rfl, rfl, rfl, rfl⟩
  cases passed with
  | unmoved unmoved =>
    rw [releaseSuite_of_taken found held unmoved.suites]
    have still := unmoved.toReshelved
    exact .unmoved ⟨taken.trans ⟨still.slots, still.owned, still.length, still.current⟩,
      unmoved.next, rfl, unmoved.generators⟩
  | reset before early late =>
    exact .reset before (taken.trans early) (late.trans (reshelved_releaseSuite number t))

theorem acquireGenerator?_eq (number : Nat) (s : Process ω) :
    acquireGenerator? number s =
      (match s.generators[number]? with
        | none => pure none
        | some shared => do
          if shared.holders = 0 then return none
          setGeneratorHolders number (shared.holders + 1)
          return some shared : StateM (Process ω) (Option (SharedGenerator ω))) s :=
  rfl

theorem acquireGenerator?_cases (s : Process ω) (number : Nat) :
    acquireGenerator? number s = (none, s) ∨
      ∃ shared, s.generators[number]? = some shared ∧ shared.holders ≠ 0 ∧
        acquireGenerator? number s =
          (some shared, (setGeneratorHolders number (shared.holders + 1) s).2) := by
  rw [acquireGenerator?_eq]
  cases s.generators[number]? with
  | none => exact .inl rfl
  | some shared =>
    by_cases unheld : shared.holders = 0
    · simp only [unheld, if_true]
      exact .inl rfl
    · simp only [unheld, if_false]
      exact .inr ⟨shared, rfl, unheld, rfl⟩

theorem releaseGenerator_eq (number : Nat) (s : Process ω) :
    releaseGenerator number s =
      match s.generators[number]? with
      | none => ((), s)
      | some shared =>
        (if shared.holders = 1 then
          Process.onPlatform
            (Platform.record shared.generator.reported (.generatorDrop shared.number))
        else pure ()) (setGeneratorHolders number (shared.holders - 1) s).2 := by
  have read : releaseGenerator number s =
      (match s.generators[number]? with
        | none => pure ()
        | some shared => do
          setGeneratorHolders number (shared.holders - 1)
          if shared.holders = 1 then
            Process.onPlatform
              (Platform.record shared.generator.reported (.generatorDrop shared.number)) :
        StateM (Process ω) Unit) s := rfl
  rw [read]
  cases s.generators[number]? with
  | none => rfl
  | some shared => rfl

theorem reshelved_releaseGenerator (number : Nat) (s : Process ω) :
    Reshelved s (releaseGenerator number s).2 := by
  rw [releaseGenerator_eq]
  cases s.generators[number]? with
  | none => exact .refl s
  | some shared =>
    have counted : Reshelved s (setGeneratorHolders number (shared.holders - 1) s).2 :=
      ⟨rfl, rfl, rfl, rfl⟩
    dsimp only
    split
    · exact counted.trans (.of_calm (.record _ _) _)
    · exact counted

theorem releaseGenerator_of_taken {shared : SharedGenerator ω}
    (found : s.generators[number]? = some shared) (held : shared.holders ≠ 0)
    (taken : t.generators = (setGeneratorHolders number (shared.holders + 1) s).2.generators) :
    (releaseGenerator number t).2 = { t with generators := s.generators } := by
  have stands : t.generators[number]? = some { shared with holders := shared.holders + 1 } := by
    rw [taken]
    change (s.generators.modify number _)[number]? = _
    simp [found]
  have others : ¬ shared.holders + 1 = 1 := by omega
  rw [releaseGenerator_eq, stands]
  dsimp only
  rw [if_neg others]
  change { t with generators := t.generators.modify number _ } =
    { t with generators := s.generators }
  rw [taken]
  congr 1
  exact modify_restored found rfl

theorem Passed.holding_generator {shared : SharedGenerator ω}
    (found : s.generators[number]? = some shared) (held : shared.holders ≠ 0)
    (passed : Passed (setGeneratorHolders number (shared.holders + 1) s).2 t) :
    Passed s (releaseGenerator number t).2 := by
  have taken : Reshelved s (setGeneratorHolders number (shared.holders + 1) s).2 :=
    ⟨rfl, rfl, rfl, rfl⟩
  cases passed with
  | unmoved unmoved =>
    rw [releaseGenerator_of_taken found held unmoved.generators]
    have still := unmoved.toReshelved
    exact .unmoved ⟨taken.trans ⟨still.slots, still.owned, still.length, still.current⟩,
      unmoved.next, unmoved.suites, rfl⟩
  | reset before early late =>
    exact .reset before (taken.trans early) (late.trans (reshelved_releaseGenerator number t))

end

end Factory

namespace Product

open Factory

-- A digest is held for one computation, in which nothing happens.
theorem Source.during_unmoved {α : Type} (source : Source) (operation : Bool → α) (s : Process ω) :
    Unmoved s (source.during operation s).2 := by
  unfold during acquire release
  cases source.suite with
  | none => exact .refl s
  | some number =>
    rcases acquireSuite?_cases s number with unavailable | ⟨shared, found, held, acquired⟩
    · simp only [bind_apply, unavailable]
      exact .refl s
    · simp only [bind_apply, acquired]
      change Unmoved s (releaseSuite number (setSuiteHolders number (shared.holders + 1) s).2).2
      rw [releaseSuite_of_taken found held rfl]
      exact .refl s

namespace Hash

variable (product : Hash) (response : Response)

theorem passes_hash (data : Bytes) (output : Option Bytes) :
    Passes (ω := ω) (product.hash response data output) := by
  unfold hash
  cases output with
  | none => exact .pure _
  | some buffer => exact product.source.during_unmoved _

theorem passes_finish (output : Option Bytes) :
    Passes (ω := ω) (product.finish response output) := by
  unfold finish
  cases output with
  | none => exact .pure _
  | some buffer =>
    cases product.stream with
    | none => exact .pure _
    | some stream => exact .bind (product.source.during_unmoved _) fun _ => .pure _

end Hash

theorem Mac.passes_sign (product : Mac) (ciphers : CipherSuite) (response : Response)
    (key data : Bytes) (output : Option Bytes) :
    Passes (ω := ω) (product.sign ciphers response key data output) := by
  unfold sign
  cases output with
  | none => exact .pure _
  | some buffer =>
    cases product with
    | hmac kind source =>
      dsimp only
      split
      · exact .pure _
      · exact source.during_unmoved _
    | cmac family =>
      dsimp only
      cases family.cipher ciphers key with
      | error cause => exact .pure _
      | ok cipher => exact .pure _

namespace Scheme

theorem passes_withDigest {α : Type} (scheme : Scheme) (operation : KeyOperation)
    (run : Option Digest → Option α) : Passes (ω := ω) (scheme.withDigest operation run) := by
  unfold withDigest
  cases scheme.signing? with
  | none => exact .pure _
  | some source? =>
    cases source? with
    | none => exact .pure _
    | some source => exact source.during_unmoved _

theorem passed_requestKey (suite : Engine.Suite ω) (algorithm : Int)
    (parameters : List (String × String)) (s : Process ω) :
    Passed s (requestKey suite algorithm parameters s).2 := by
  have asked : Passes (Process.onPlatform (suite.requestKey algorithm parameters)) :=
    Unmoved.of_calm (Engine.Handle.calm_call _ _ _) fun _ => rfl
  have unmoved := asked s
  unfold requestKey
  rw [bind_apply]
  generalize Process.onPlatform (suite.requestKey algorithm parameters) s = reply at *
  dsimp only
  split
  · exact .reset reply.2 unmoved.toReshelved (Passes.record _ _ _).toReshelved
  · exact .unmoved unmoved

theorem passed_suiteKey (number : Nat) (s : Process ω) : Passed s (suiteKey number s).2 := by
  unfold suiteKey
  rw [bind_apply]
  rcases acquireSuite?_cases s number with unavailable | ⟨shared, found, held, acquired⟩
  · rw [unavailable]
    exact .unmoved (.refl s)
  · rw [acquired]
    exact .holding_suite found held (passed_requestKey shared.suite _ _ _)

theorem passed_generateKey (scheme : Scheme) (library : Key.Library) (seed : Nat)
    (parameters : KeyParameters) (s : Process ω) :
    Passed s (scheme.generateKey library seed parameters s).2 := by
  have idle (result : Except Error Key.Private) :
      Passed s ((pure result : StateM (Process ω) _) s).2 := .unmoved (.refl s)
  unfold generateKey
  cases scheme with
  | gost source =>
    dsimp only
    split
    · cases source.suite with
      | none => exact idle _
      | some number => exact passed_suiteKey number s
    · exact idle _
  | _ => exact idle _

end Scheme

namespace Random

theorem passed_request (shared : SharedGenerator ω) (count : Nat) (s : Process ω) :
    Passed s (request shared count s).2 := by
  have asked : Passes (do
      Process.onPlatform (Platform.record shared.generator.reported (.generate shared.number count))
      Process.onPlatform (Platform.consult (shared.generator.generate count))) :=
    .bind (.record _ _) fun _ => .consult _
  have unmoved := asked s
  unfold request
  rw [bind_apply] at unmoved
  simp only [bind_apply]
  generalize Process.onPlatform (Platform.consult (shared.generator.generate count)) _ = reply at *
  split
  · exact .reset reply.2 unmoved.toReshelved (Passes.record _ _ _).toReshelved
  · exact .unmoved unmoved

theorem passed_generate (product : Random) (count : Nat) (s : Process ω) :
    Passed s (product.generate count s).2 := by
  unfold generate
  rw [bind_apply]
  rcases acquireGenerator?_cases s product.generator with unavailable | ⟨shared, found, held,
    acquired⟩
  · rw [unavailable]
    exact .unmoved (.refl s)
  · rw [acquired]
    exact .holding_generator found held (passed_request shared count _)

end Random

end Product

namespace Factory

theorem Use.passed_run (use : Use) (s : Process ω) : Passed s (use.run s).2 := by
  cases use with
  | hash product response data output =>
    exact .unmoved (product.passes_hash response data output s)
  | hashStart product response =>
    exact .unmoved (product.source.during_unmoved (product.startWith response) s)
  | hashUpdate product response data =>
    exact .unmoved (product.source.during_unmoved (product.updateWith response data) s)
  | hashFinish product response output =>
    exact .unmoved (product.passes_finish response output s)
  | mac product ciphers response key data output =>
    exact .unmoved (product.passes_sign ciphers response key data output s)
  | generateKey product library seed parameters =>
    exact product.passed_generateKey library seed parameters s
  | sign product library seed key data =>
    exact .unmoved (product.passes_withDigest .signing (library.sign key · data seed) s)
  | verify product library key data signature =>
    exact .unmoved (product.passes_withDigest .verification (library.verify key · data signature) s)
  | random product count => exact product.passed_generate count s

end Factory

end CryptoProvider
