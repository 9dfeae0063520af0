import CryptoProvider.Proofs.Factory.Operations

/-!
Epochs: the stretches of a run between two resets that took an instance down. Demands are numbered
by the epoch in which they are served, so the answers tell which of them share an instance.
-/

set_option autoImplicit false

namespace CryptoProvider.Factory

variable {ω : Type}

/-- A demand's answer, and the epoch in which it was given. -/
structure Served where
  epoch : Nat
  given : Demanded
  deriving DecidableEq, Repr

/-- Whether a live instance was taken down between two states. -/
def ended (s next : Process ω) : Bool :=
  s.current.isSome && next.current.isNone

/-- The demands that a run serves, in order; the run begins in a numbered epoch. -/
def served [Memory ω] (epoch : Nat) : List (Step ω) → Process ω → List Served
  | [], _ => []
  | step :: steps, s =>
    let (answer, next) := step.perform s
    let later := served (if ended s next then epoch + 1 else epoch) steps next
    match answer with
    | .demanded given => ⟨epoch, given⟩ :: later
    | _ => later

section

variable {s : Process ω} {number : Nat}

theorem demand_of_current [Memory ω] (current : s.current = some number)
    (options : StateM (Process ω) (Options ω)) :
    demand options s = (⟨number, false⟩, (changeHandles number (· + 1) s).2) := by
  simp only [demand, current, bind, StateT.bind, get, getThe, MonadStateOf.get, StateT.get, pure]
  rfl

theorem demand_of_none [Memory ω] (current : s.current = none)
    (options : StateM (Process ω) (Options ω)) :
    demand options s = (do
      let made ← options
      let number ← construct made
      return ⟨number, true⟩ : StateM (Process ω) Demanded) s := by
  simp only [demand, current, bind, StateT.bind, get, getThe, MonadStateOf.get, StateT.get, pure]

-- Whoever demands is given the instance that is current afterwards.
theorem current_demand [Memory ω] (options : StateM (Process ω) (Options ω)) :
    (demand options s).2.current = some (demand options s).1.number := by
  cases current : s.current with
  | some number =>
    rw [demand_of_current current]
    exact current
  | none =>
    rw [demand_of_none current]
    rfl

theorem constructed_demand [Memory ω] (options : StateM (Process ω) (Options ω)) :
    (demand options s).1.constructed = s.current.isNone := by
  cases current : s.current with
  | some number => rw [demand_of_current current]; rfl
  | none => rw [demand_of_none current]; rfl

theorem subsystems?_of_length_le (beyond : s.instances.length ≤ number) :
    subsystems? s number = none := by
  rw [subsystems?, List.getElem?_eq_none beyond]
  rfl

end

section

variable {frame : List Ledger.Entry} {s : Process ω} {number : Nat}

/-- An instance that was not reset is the current one, and the other way round. -/
theorem Steady.current_iff (steady : Steady false frame s) :
    s.current = some number ↔ isReset s number = false := by
  have live := steady.standing.live number
  change (subsystems? s number).isSome = true ↔ s.current = some number at live
  rw [← live, isReset]
  cases subsystems? s number <;> simp

theorem Steady.bound (steady : Steady false frame s) (current : s.current = some number) :
    number < s.instances.length := by
  obtain ⟨owned, lives⟩ := steady.standing.lives current
  refine Nat.lt_of_not_le fun beyond => ?_
  rw [subsystems?_of_length_le beyond] at lives
  cases lives

theorem Steady.run [Memory ω] (steady : Steady false frame s) (step : Step ω) :
    Steady false frame (step.run s).2 :=
  (keeps_step step (by simp) (fun _ => rfl) frame s steady).1

-- One step never replaces an instance by another: in between there is a state without any.
theorem current_step [Memory ω] (steady : Steady false frame s) (current : s.current = some number)
    (step : Step ω) :
    (step.run s).2.current = some number ∨ (step.run s).2.current = none := by
  by_cases demands : step.demands = true
  · cases step with
    | demand options =>
      have same := demand_of_current current (Process.onPlatform (Platform.consult options))
      have kept : ((Step.demand options).run s).2.current = s.current :=
        congrArg (fun answer => answer.2.current) same
      exact .inl (kept.trans current)
    | _ => cases demands
  · have succeeds : Succeeds false s (step.run s).2 :=
      (keeps_step step (by simp) (fun demanding => absurd demanding demands) frame s steady).2
    cases next : (step.run s).2.current with
    | none => exact .inr rfl
    | some other =>
      rcases succeeds.current other next with kept | ⟨built, _⟩
      · exact .inl (kept.symm.trans current)
      · cases built

theorem current_step_of_none [Memory ω] (steady : Steady false frame s) (current : s.current = none)
    {step : Step ω} (quiet : step.demands = false) : (step.run s).2.current = none := by
  have succeeds : Succeeds false s (step.run s).2 :=
    (keeps_step step (by simp) (by simp [quiet]) frame s steady).2
  cases next : (step.run s).2.current with
  | none => rfl
  | some other =>
    rcases succeeds.current other next with kept | ⟨built, _⟩
    · rw [current] at kept
      cases kept
    · cases built

end

section

variable {frame : List Ledger.Entry}

theorem served_demand [Memory ω] (epoch : Nat) (options : StateM ω (Options ω))
    (steps : List (Step ω)) (s : Process ω) :
    served epoch (.demand options :: steps) s =
      ⟨epoch, (demand (Process.onPlatform (Platform.consult options)) s).1⟩ ::
        served epoch steps (demand (Process.onPlatform (Platform.consult options)) s).2 := by
  have full := current_demand (s := s) (Process.onPlatform (Platform.consult options))
  have still : ended s (demand (Process.onPlatform (Platform.consult options)) s).2 = false := by
    rw [ended, full]
    exact Bool.and_false _
  change _ :: served (if ended s (demand _ s).2 then epoch + 1 else epoch) steps (demand _ s).2 = _
  rw [still]
  rfl

theorem served_quiet [Memory ω] (epoch : Nat) {step : Step ω} (quiet : step.demands = false)
    (steps : List (Step ω)) (s : Process ω) :
    served epoch (step :: steps) s =
      served (if ended s (step.run s).2 then epoch + 1 else epoch) steps (step.run s).2 := by
  cases step with
  | demand options => cases quiet
  | use operation => rw [Step.run_eq_perform]; rfl
  | _ => rfl

/-- What a demand that is served later in a run says about the state before: in the same epoch it
gives the instance that is current, and in another epoch, or if there is none, a new one. -/
structure Foreseen (epoch : Nat) (s : Process ω) (call : Served) : Prop where
  begun : epoch ≤ call.epoch
  same : call.epoch = epoch → ∀ number, s.current = some number → call.given = ⟨number, false⟩
  new : epoch < call.epoch ∨ s.current = none → s.instances.length ≤ call.given.number

theorem foreseen_head [Memory ω] {s : Process ω} (steady : Steady false frame s) (epoch : Nat)
    (options : StateM ω (Options ω)) :
    Foreseen epoch s
      ⟨epoch, (demand (Process.onPlatform (Platform.consult options)) s).1⟩ where
  begun := Nat.le_refl _
  same _ number current := by rw [demand_of_current current]
  new := by
    rintro (later | empty)
    · exact absurd later (Nat.lt_irrefl _)
    · have succeeds := (keeps_demand options frame s steady).2
      rcases succeeds.current _ (current_demand _) with kept | ⟨_, new⟩
      · rw [empty] at kept
        cases kept
      · exact new

-- What is foreseen after a demand was foreseen before it.
theorem Foreseen.before_demand [Memory ω] {s : Process ω} {epoch : Nat} {call : Served}
    {options : StateM ω (Options ω)} (steady : Steady false frame s)
    (foreseen : Foreseen epoch
      (demand (Process.onPlatform (Platform.consult options)) s).2 call) :
    Foreseen epoch s call := by
  have head := foreseen_head steady epoch options
  have grows := (keeps_demand options frame s steady).2.grows
  have given := fun same : call.epoch = epoch => foreseen.same same _ (current_demand _)
  refine ⟨foreseen.begun, fun same number current => ?_, fun new => ?_⟩
  · rw [given same, demand_of_current current]
  · rcases Nat.eq_or_lt_of_le foreseen.begun with same | later
    · rw [given same.symm]
      exact head.new (new.imp_left fun later => absurd same (Nat.ne_of_lt later))
    · exact Nat.le_trans grows (foreseen.new (.inl later))

theorem Foreseen.before_quiet [Memory ω] {s : Process ω} {epoch : Nat} {call : Served}
    {step : Step ω} (steady : Steady false frame s) (quiet : step.demands = false)
    (foreseen : Foreseen (if ended s (step.run s).2 then epoch + 1 else epoch)
      (step.run s).2 call) : Foreseen epoch s call := by
  have grows := (step.later_run s).grows
  cases current : s.current with
  | none =>
    have empty := current_step_of_none steady current quiet
    have still : ended s (step.run s).2 = false := by simp [ended, current]
    rw [still] at foreseen
    refine ⟨foreseen.begun, fun _ number full => ?_, fun _ => ?_⟩
    · rw [current] at full
      cases full
    · exact Nat.le_trans grows (foreseen.new (.inr empty))
  | some number =>
    rcases current_step steady current step with kept | empty
    · have still : ended s (step.run s).2 = false := by simp [ended, kept]
      rw [still] at foreseen
      refine ⟨foreseen.begun, fun same other full => ?_, fun new => ?_⟩
      · exact foreseen.same same other (kept.trans (current.symm.trans full))
      · have later : epoch < call.epoch := new.resolve_right (by simp [current])
        exact Nat.le_trans grows (foreseen.new (.inl later))
    · have closed : ended s (step.run s).2 = true := by simp [ended, current, empty]
      rw [closed] at foreseen
      refine ⟨Nat.le_of_succ_le foreseen.begun, fun same => ?_, fun _ => ?_⟩
      · exact absurd same (Nat.ne_of_gt foreseen.begun)
      · exact Nat.le_trans grows (foreseen.new (.inr empty))

theorem foreseen_of_served [Memory ω] {epoch : Nat} {steps : List (Step ω)} {s : Process ω}
    (steady : Steady false frame s) :
    ∀ call ∈ served epoch steps s, Foreseen epoch s call := by
  induction steps generalizing epoch s with
  | nil => simp [served]
  | cons step steps ih =>
    intro call member
    by_cases demands : step.demands = true
    · cases step with
      | demand options =>
        rw [served_demand] at member
        rcases List.mem_cons.mp member with rfl | later
        · exact foreseen_head steady epoch options
        · exact (ih (steady.run (.demand options)) call later).before_demand steady
      | _ => cases demands
    · have quiet : step.demands = false := by simpa using demands
      rw [served_quiet epoch quiet] at member
      exact (ih (steady.run step) call member).before_quiet steady quiet

-- A demand, and one that is served after it.
theorem head_epoch_iff [Memory ω] {epoch : Nat} {steps : List (Step ω)} {s : Process ω}
    {options : StateM ω (Options ω)} (steady : Steady false frame s) :
    ∀ call ∈ served epoch steps (demand (Process.onPlatform (Platform.consult options)) s).2,
      epoch = call.epoch ↔
        (demand (Process.onPlatform (Platform.consult options)) s).1.number =
          call.given.number := by
  intro call member
  have next : Steady false frame (demand (Process.onPlatform (Platform.consult options)) s).2 :=
    steady.run (.demand options)
  have full := current_demand (s := s) (Process.onPlatform (Platform.consult options))
  have foreseen := foreseen_of_served next call member
  refine ⟨fun same => ?_, fun same => ?_⟩
  · rw [foreseen.same same.symm _ full]
  · refine (Nat.eq_or_lt_of_le foreseen.begun).resolve_right fun later => ?_
    have beyond := foreseen.new (.inl later)
    rw [← same] at beyond
    exact Nat.lt_irrefl _ (Nat.lt_of_lt_of_le (next.bound full) beyond)

-- The demands of one epoch are given one instance, and no other demand is given it.
theorem same_epoch_iff [Memory ω] {epoch : Nat} {steps : List (Step ω)} {s : Process ω}
    (steady : Steady false frame s) :
    ∀ first ∈ served epoch steps s, ∀ second ∈ served epoch steps s,
      first.epoch = second.epoch ↔ first.given.number = second.given.number := by
  induction steps generalizing epoch s with
  | nil => simp [served]
  | cons step steps ih =>
    intro first early second late
    by_cases demands : step.demands = true
    · cases step with
      | demand options =>
        rw [served_demand] at early late
        rcases List.mem_cons.mp early with rfl | early
        · rcases List.mem_cons.mp late with rfl | late
          · simp
          · exact head_epoch_iff steady second late
        · rcases List.mem_cons.mp late with rfl | late
          · rw [eq_comm, head_epoch_iff steady first early, eq_comm]
          · exact ih (steady.run (.demand options)) first early second late
      | _ => cases demands
    · have quiet : step.demands = false := by simpa using demands
      rw [served_quiet epoch quiet] at early late
      exact ih (steady.run step) first early second late

/-- Whether a demand of an epoch built the instance that it was given. -/
def Served.builds (epoch : Nat) (call : Served) : Bool :=
  call.epoch == epoch && call.given.constructed

-- While an instance is current, its epoch builds no other.
theorem countP_builds_of_current [Memory ω] {epoch number : Nat} {steps : List (Step ω)}
    {s : Process ω} (steady : Steady false frame s) (current : s.current = some number) :
    (served epoch steps s).countP (Served.builds epoch) = 0 := by
  refine List.countP_eq_zero.mpr fun call member => ?_
  have foreseen := foreseen_of_served steady call member
  by_cases same : call.epoch = epoch
  · simp [Served.builds, foreseen.same same number current]
  · simp [Served.builds, same]

-- An epoch that begins without an instance builds one, if there is a demand in it at all.
theorem countP_builds [Memory ω] {epoch wanted : Nat} {steps : List (Step ω)} {s : Process ω}
    (steady : Steady false frame s) (vacant : s.current = none ∨ wanted ≠ epoch) :
    (served epoch steps s).countP (Served.builds wanted) =
      if (served epoch steps s).any (·.epoch == wanted) then 1 else 0 := by
  induction steps generalizing epoch s with
  | nil => rfl
  | cons step steps ih =>
    by_cases demands : step.demands = true
    · cases step with
      | demand options =>
        have next : Steady false frame
            (demand (Process.onPlatform (Platform.consult options)) s).2 :=
          steady.run (.demand options)
        have full := current_demand (s := s) (Process.onPlatform (Platform.consult options))
        rw [served_demand, List.countP_cons, List.any_cons]
        by_cases same : wanted = epoch
        · subst same
          have empty := vacant.resolve_right (by simp)
          have made := constructed_demand (s := s) (Process.onPlatform (Platform.consult options))
          rw [countP_builds_of_current next full]
          simp [Served.builds, made, empty]
        · rw [ih next (.inr same)]
          simp [Served.builds, Ne.symm same]
      | _ => cases demands
    · have quiet : step.demands = false := by simpa using demands
      rw [served_quiet epoch quiet]
      refine ih (steady.run step) ?_
      cases closed : ended s (step.run s).2 with
      | true =>
        have empty : (step.run s).2.current = none := by
          have both : s.current.isSome = true ∧ (step.run s).2.current.isNone = true := by
            simpa [ended] using closed
          exact Option.isNone_iff_eq_none.mp both.2
        exact .inl empty
      | false => exact vacant.imp (fun empty => current_step_of_none steady empty quiet) id

end

/-- In every epoch the options of one demand are made and one instance is built, unless there is no
demand in it; all demands of the epoch are given that instance, and no others are. An instance is
the current one as long as it was not reset. -/
theorem one_construction_each_epoch [Memory ω] (outside : ω) (hosts : List Locking.Host)
    (steps : List (Step ω)) :
    let s := after steps (Process.launch outside hosts)
    let calls := served 0 steps (Process.launch outside hosts)
    (∀ epoch, calls.countP (Served.builds epoch) =
      if calls.any (·.epoch == epoch) then 1 else 0) ∧
    (∀ first ∈ calls, ∀ second ∈ calls,
      first.epoch = second.epoch ↔ first.given.number = second.given.number) ∧
    -- The options are made by the demand that builds, once, and are not looked at by any other.
    (∀ options : StateM (Process ω) (Options ω),
      if (demand options s).1.constructed then
        demand options s = (do
          let made ← options
          let number ← construct made
          return ⟨number, true⟩ : StateM (Process ω) Demanded) s
      else ∀ others, demand others s = demand options s) ∧
    (∀ number, s.current = some number ↔ isReset s number = false) ∧
    (∀ first second, isReset s first = false → isReset s second = false → first = second) ∧
    (isInitialized s = true ↔ ∃ number, isReset s number = false) := by
  intro s calls
  have start : Steady false [] (Process.launch outside hosts) := steady_launch outside hosts
  have steady : Steady false [] s := steady_after (by simp) start
  refine ⟨fun epoch => countP_builds start (.inl rfl), same_epoch_iff start, fun options => ?_,
    fun number => steady.current_iff, fun first second => ?_, ?_⟩
  · rw [constructed_demand]
    cases current : s.current with
    | none => exact demand_of_none current options
    | some number =>
      intro others
      rw [demand_of_current current, demand_of_current current]
  · rw [← steady.current_iff, ← steady.current_iff]
    exact fun one other => Option.some.inj (one.symm.trans other)
  · simp only [isInitialized, Option.isSome_iff_exists, steady.current_iff]

end CryptoProvider.Factory
