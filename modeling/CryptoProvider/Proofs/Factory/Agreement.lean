import CryptoProvider.Proofs.Factory.BestEffort
import CryptoProvider.Proofs.Factory.TeardownOrder

/-!
What an instance says it has, and what it gives. The queries and the requests read different parts
of an instance; in every state that a run comes to they say the same.
-/

set_option autoImplicit false

namespace CryptoProvider.Factory

variable {ω : Type}

/-- Whether a request is for a product of the alternate suite. -/
def Request.ofSuite : Request → Bool
  | .scheme kind => kind = .gost
  | .hash kind => kind = .gost
  | .mac kind => kind = .hmacGost
  | .cipher _ | .random _ => false

def Request.label : Request → String
  | .cipher kind => kind.label
  | .scheme kind => kind.label
  | .hash kind => kind.label
  | .mac kind => kind.label
  | .random kind => kind.label

section

variable {s : Process ω} {number place : Nat} {owned : Subsystems ω} {shared : SharedSuite ω}

theorem fromSuite_of_found {α : Type} (part : owned.suite = some place)
    (found : s.suites[place]? = some shared) (label : String)
    (make : Nat → Engine.Suite ω → α) :
    fromSuite owned label make s = (.ok (make place shared.suite), s) := by
  simp only [fromSuite, bind, StateT.bind, get, getThe, MonadStateOf.get, StateT.get, pure, part,
    Option.bind_some, found, Option.map_some]
  rfl

theorem fromSuite_of_none {α : Type} (lacking : owned.suite = none) (label : String)
    (make : Nat → Engine.Suite ω → α) :
    (fromSuite owned label make s).1 = .error (.unsupportedKind label) := by
  simp only [fromSuite, bind, StateT.bind, get, getThe, MonadStateOf.get, StateT.get, pure, lacking,
    Option.bind_none]
  rfl

theorem refused_of_live {α : Type} {rest : Except Error (Subsystems ω) →
    StateM (Process ω) (Except Error α)} {cause : Error} (make : α → Made)
    (owns : subsystems? s number = some owned) (refused : (rest (.ok owned) s).1 = .error cause) :
    ((do return (← live number >>= rest).map make :
      StateM (Process ω) (Except Error Made)) s).1 = .error cause := by
  simp only [bind_apply, live_of_owns owns]
  change (rest (.ok owned) s).1.map make = _
  rw [refused]
  rfl

theorem dispatch_of_suite (owns : subsystems? s number = some owned)
    (part : owned.suite = some place) (found : s.suites[place]? = some shared) {request : Request}
    (ofSuite : request.ofSuite = true) :
    ∃ made, dispatch number request s = (.ok made, s) ∧ made.request = request := by
  cases request with
  | scheme kind =>
    obtain rfl : kind = .gost := by simpa [Request.ofSuite] using ofSuite
    exact ⟨_, answer_of_live .scheme owns (fromSuite_of_found part found _ _), rfl⟩
  | hash kind =>
    obtain rfl : kind = .gost := by simpa [Request.ofSuite] using ofSuite
    exact ⟨_, answer_of_live .hash owns (fromSuite_of_found part found _ _), rfl⟩
  | mac kind =>
    obtain rfl : kind = .hmacGost := by simpa [Request.ofSuite] using ofSuite
    exact ⟨_, answer_of_live .mac owns (fromSuite_of_found part found _ _), rfl⟩
  | cipher kind | random kind => cases ofSuite

theorem dispatch_without_suite (owns : subsystems? s number = some owned)
    (lacking : owned.suite = none) {request : Request} (ofSuite : request.ofSuite = true) :
    (dispatch number request s).1 = .error (.unsupportedKind request.label) := by
  cases request with
  | scheme kind =>
    obtain rfl : kind = .gost := by simpa [Request.ofSuite] using ofSuite
    exact refused_of_live .scheme owns (fromSuite_of_none lacking _ _)
  | hash kind =>
    obtain rfl : kind = .gost := by simpa [Request.ofSuite] using ofSuite
    exact refused_of_live .hash owns (fromSuite_of_none lacking _ _)
  | mac kind =>
    obtain rfl : kind = .hmacGost := by simpa [Request.ofSuite] using ofSuite
    exact refused_of_live .mac owns (fromSuite_of_none lacking _ _)
  | cipher kind | random kind => cases ofSuite

theorem dispatch_random (owns : subsystems? s number = some owned) :
    (dispatch number (.random .standard) s).1 =
      match owned.generator with
      | some generator => .ok (.random ⟨generator⟩)
      | none => .error .generatorUnavailable := by
  simp only [dispatch, random, bind_apply, live_of_owns owns]
  cases owned.generator <;> rfl

-- What is neither builtin nor of a suite is a generator, or unknown.
theorem dispatch_unknown (owns : subsystems? s number = some owned) {request : Request}
    (builtin : request.builtin = false) (ofSuite : request.ofSuite = false)
    (unnamed : request ≠ .random .standard) :
    (dispatch number request s).1 = .error (.unsupportedKind request.label) := by
  cases request with
  | cipher kind =>
    obtain rfl : kind = .unknown := by simpa [Request.builtin] using builtin
    exact refused_of_live .cipher owns rfl
  | scheme kind =>
    obtain rfl : kind = .unknown := by
      cases kind <;> simp [Request.builtin, Request.ofSuite] at builtin ofSuite ⊢
    exact refused_of_live .scheme owns rfl
  | hash kind =>
    obtain rfl : kind = .unknown := by
      cases kind <;> simp [Request.builtin, Request.ofSuite] at builtin ofSuite ⊢
    exact refused_of_live .hash owns rfl
  | mac kind =>
    obtain rfl : kind = .unknown := by
      cases kind <;> simp [Request.builtin, Request.ofSuite] at builtin ofSuite ⊢
    exact refused_of_live .mac owns rfl
  | random kind =>
    cases kind with
    | unknown => rfl
    | standard => exact absurd rfl unnamed

end

theorem later_after [Memory ω] (steps : List (Step ω)) (s : Process ω) :
    Later s (after steps s) := by
  induction steps generalizing s with
  | nil => exact .refl s
  | cons step rest ih => exact (step.later_run s).trans (ih (step.run s).2)

/-- The state in which a demand has made its options. -/
def opened (options : StateM ω (Options ω)) (s : Process ω) : Options ω × Process ω :=
  Process.onPlatform (Platform.consult options) s

/-- Whether the generator is constructed when an instance is built from options. -/
def generatorUp [Memory ω] (made : Options ω) (s : Process ω) : Bool :=
  attempted made.config (comesUp made s) .generator && comesUp made s .generator

/-- An instance that lives was built in one step of the run, and is what was built there. -/
theorem built_in_run [Memory ω] {frame : List Ledger.Entry} {steps : List (Step ω)}
    {start : Process ω} {number : Nat} {owned : Subsystems ω} (steady : Steady false frame start)
    (absent : start.instances.length ≤ number)
    (owns : subsystems? (after steps start) number = some owned) :
    ∃ before options later, steps = before ++ .demand options :: later ∧
      (after before start).current = none ∧
      (demand (opened options) (after before start)).1 = ⟨number, true⟩ ∧
      subsystems? (demand (opened options) (after before start)).2 number = some owned := by
  induction steps generalizing start with
  | nil =>
    rw [after, List.foldl_nil, subsystems?_of_length_le absent] at owns
    cases owns
  | cons step rest ih =>
    have next := steady.run step
    by_cases still : (step.run start).2.instances.length ≤ number
    · obtain ⟨before, options, later, same, vacant, built, made⟩ := ih next still owns
      exact ⟨step :: before, options, later, by rw [same]; rfl, vacant, built, made⟩
    · -- The first step built it: it was a demand, and there was no instance.
      have there := (later_after rest (step.run start).2).owned number (by omega) owned owns
      have current : (step.run start).2.current = some number :=
        (next.standing.live number).mp (by rw [there]; rfl)
      have vacant : start.current = none := by
        cases before : start.current with
        | none => rfl
        | some other =>
          have bound := steady.bound before
          rcases current_step steady before step with same | none
          · have equal : other = number := Option.some.inj (same.symm.trans current)
            omega
          · rw [none] at current
            cases current
      cases step with
      | demand options =>
        have numbered : (demand (opened options) start).1.number = number :=
          Option.some.inj ((current_demand _).symm.trans current)
        have constructed : (demand (opened options) start).1.constructed = true := by
          rw [constructed_demand, vacant]
          rfl
        have given : (demand (opened options) start).1 = ⟨number, true⟩ := by
          rw [← numbered, ← constructed]
        exact ⟨[], options, rest, rfl, vacant, given, there⟩
      | _ =>
        rw [current_step_of_none steady vacant rfl] at current
        cases current

section

variable {s : Process ω} {number : Nat} {owned : Subsystems ω}

theorem lives_of_owns (steady : Steady false [] s) (owns : subsystems? s number = some owned) :
    live? s = some owned := by
  have current : s.current = some number :=
    (steady.standing.live number).mp (by rw [owns]; rfl)
  rw [live?_of_current current, owns]

/-- The suite of an instance that lives can be used. -/
theorem suite_found (steady : Steady false [] s) (owns : subsystems? s number = some owned)
    {place : Nat} (part : owned.suite = some place) :
    ∃ shared, s.suites[place]? = some shared ∧ shared.holders ≠ 0 := by
  obtain ⟨shared, found, held, _⟩ :=
    suite_of_live steady.standing (lives_of_owns steady owns) part
  exact ⟨shared, found, by rw [held]; decide⟩

theorem not_ok_of_reset (gone : subsystems? s number = none) (request : Request) :
    ¬ ∃ made, (dispatch number request s).1 = .ok made := by
  intro given
  obtain ⟨made, given⟩ := given
  have refused := dispatch_refused number request s gone
  rw [given] at refused
  cases refused

theorem suite_agrees (steady : Steady false [] s) {request : Request}
    (ofSuite : request.ofSuite = true) :
    (capabilities s number).suite = true ↔ ∃ made, (dispatch number request s).1 = .ok made := by
  cases owns : subsystems? s number with
  | none => simp [capabilities, owns, not_ok_of_reset owns request]
  | some owned =>
    simp only [capabilities, owns]
    cases part : owned.suite with
    | none => simp [dispatch_without_suite owns part ofSuite]
    | some place =>
      obtain ⟨shared, found, _⟩ := suite_found steady owns part
      obtain ⟨made, given, _⟩ := dispatch_of_suite owns part found ofSuite
      simp [given]

theorem hardware_whole (steady : Steady false [] s) {hardware : Command.Hardware ω}
    (seen : withHardware s number id = some hardware) :
    hardware.command.isSome = true ∧ hardware.transport.isSome = true := by
  obtain ⟨owned, owns, part⟩ := Option.bind_eq_some_iff.mp seen
  rw [Option.map_id] at part
  obtain ⟨command, transport, hasCommand, hasTransport, _⟩ :=
    (steady.standing.whole owned (lives_of_owns steady owns)).hardware hardware part
  simp [hasCommand, hasTransport]

theorem request_of_dispatch (steady : Steady false [] s) {request : Request} {made : Made}
    (given : (dispatch number request s).1 = .ok made) : made.request = request := by
  obtain ⟨owned, owns, _⟩ := madeOf_of_dispatch given
  cases builtin : request.builtin with
  | true =>
    obtain ⟨product, answer, same⟩ := dispatch_builtin owns builtin
    rw [answer] at given
    cases given
    exact same
  | false =>
    cases ofSuite : request.ofSuite with
    | true =>
      have served := (suite_agrees steady ofSuite).mpr ⟨made, given⟩
      simp only [capabilities, owns] at served
      obtain ⟨place, part⟩ := Option.isSome_iff_exists.mp served
      obtain ⟨shared, found, _⟩ := suite_found steady owns part
      obtain ⟨product, answer, same⟩ := dispatch_of_suite owns part found ofSuite
      rw [answer] at given
      cases given
      exact same
    | false =>
      by_cases named : request = .random .standard
      · subst named
        rw [dispatch_random owns] at given
        cases part : owned.generator with
        | none => simp [part] at given
        | some generator =>
          simp only [part] at given
          cases given
          rfl
      · rw [dispatch_unknown owns builtin ofSuite named] at given
        cases given

-- The generator is there if it was constructed with the instance.
theorem generator_agrees [Memory ω] (owns : subsystems? s number = some owned) {before : Process ω}
    {options : StateM ω (Options ω)} (vacant : before.current = none)
    (built : (demand (opened options) before).1 = ⟨number, true⟩)
    (made : subsystems? (demand (opened options) before).2 number = some owned) :
    (generatorUp (opened options before).1 (opened options before).2 = true ↔
      ∃ product, (dispatch number (.random .standard) s).1 = .ok product) ∧
    (generatorUp (opened options before).1 (opened options before).2 = false →
      (dispatch number (.random .standard) s).1 = .error .generatorUnavailable) := by
  have came := hasPart_demand vacant (opened options) .generator
  rw [built, hasPart_of_owns made .generator] at came
  have up : generatorUp (opened options before).1 (opened options before).2 =
      owned.generator.isSome := came.symm
  rw [up, dispatch_random owns]
  cases owned.generator with
  | none => simp
  | some generator => simp

end

/-- Whatever happened before, what an instance says it has is what it gives: with a suite, and only
then, it serves the requests that need one; the hardware that it says it has is there to look at,
with its contexts; as long as it is not reset it serves every builtin kind, whatever did not come
up, and its generator if that came up when it was built; and every product is of the kind that was
asked for. -/
theorem queries_agree_with_dispatch [Memory ω] (outside : ω) (hosts : List Locking.Host)
    (steps : List (Step ω)) (number : Nat) :
    let start := Process.launch outside hosts
    let s := after steps start
    (∀ request : Request, request.ofSuite = true →
      ((capabilities s number).suite = true ↔
        ∃ made, (dispatch number request s).1 = .ok made) ∧
      (isReset s number = false → (capabilities s number).suite = false →
        (dispatch number request s).1 = .error (.unsupportedKind request.label))) ∧
    (∀ (α : Type) (look : Command.Hardware ω → α),
      ((capabilities s number).hardware = true ↔ (withHardware s number look).isSome = true)) ∧
    (∀ hardware, withHardware s number id = some hardware →
      hardware.command.isSome = true ∧ hardware.transport.isSome = true) ∧
    (isReset s number = false →
      (∀ request : Request, request.builtin = true →
        ∃ made, (dispatch number request s).1 = .ok made) ∧
      ∃ before options later, steps = before ++ .demand options :: later ∧
        (demand (opened options) (after before start)).1 = ⟨number, true⟩ ∧
        let (made, building) := opened options (after before start)
        (generatorUp made building = true ↔
          ∃ product, (dispatch number (.random .standard) s).1 = .ok product) ∧
        (generatorUp made building = false →
          (dispatch number (.random .standard) s).1 = .error .generatorUnavailable)) ∧
    (∀ request made, (dispatch number request s).1 = .ok made → made.request = request) := by
  intro start s
  have launched : Steady false [] start := steady_launch outside hosts
  have steady : Steady false [] s := steady_after (by simp) launched
  refine ⟨fun request ofSuite => ⟨suite_agrees steady ofSuite, fun alive lacking => ?_⟩,
    fun α look => ?_, fun hardware => hardware_whole steady, fun alive => ?_,
    fun request made => request_of_dispatch steady⟩
  · cases owns : subsystems? s number with
    | none => simp [isReset, owns] at alive
    | some owned =>
      have none : owned.suite = none := by simpa [capabilities, owns] using lacking
      exact dispatch_without_suite owns none ofSuite
  · cases owns : subsystems? s number with
    | none => simp [capabilities, withHardware, owns]
    | some owned => simp [capabilities, withHardware, owns]
  · cases owns : subsystems? s number with
    | none => simp [isReset, owns] at alive
    | some owned =>
      obtain ⟨before, options, later, split, vacant, built, made⟩ :=
        built_in_run launched (Nat.zero_le number) owns
      have random := generator_agrees owns vacant built made
      refine ⟨fun request builtin => ?_, before, options, later, split, built, random⟩
      obtain ⟨product, answer, _⟩ := dispatch_builtin owns builtin
      exact ⟨product, congrArg Prod.fst answer⟩

end CryptoProvider.Factory
