import CryptoProvider.Proofs.Ledger.Releases

/-!
Attaching an engine, demand by demand. The outside world's answers alone say how far an attachment
comes; the first refusal ends it, and what was taken by then is given back before it returns.
-/

set_option autoImplicit false

namespace CryptoProvider.Engine

open Ledger

variable {ω : Type}

/-- What is asked of an engine that has been started: the step it belongs to, and the call. -/
structure Demand (ω : Type) where
  step : Step
  ask : EngineRef → StateM ω Bool
  shows : EngineRef → Call

namespace Demand

variable (api : EngineApi ω)

def setDefault (methods : Nat) : Demand ω :=
  ⟨.setDefault, fun engine => api.setDefault engine methods, (.engineSetDefault · methods)⟩

def digest (algorithm : Int) : Demand ω :=
  ⟨.digest, fun engine => Option.isSome <$> api.digest engine algorithm,
    (.engineDigest · algorithm)⟩

def registerKeys : Demand ω :=
  ⟨.registerKeys, api.registerKeys, .engineRegisterKeys⟩

def control (request : String × String) : Demand ω :=
  ⟨.control, fun engine => api.control engine request.1 request.2,
    (.engineControl · request.1 request.2)⟩

end Demand

/-- What engines are attached for. -/
inductive Purpose where
  | random
  | suite (config : SuiteConfig)
  deriving DecidableEq, Repr

inductive Value (ω : Type) where
  | random (accelerator : HardwareRandom ω)
  | suite (alternate : Suite ω)

namespace Value

def handle : Value ω → Handle ω
  | .random accelerator => accelerator.handle
  | .suite alternate => alternate.handle

def drop : Value ω → StateM (Platform ω) Unit
  | .random accelerator => accelerator.drop
  | .suite alternate => alternate.drop

theorem drop_eq (value : Value ω) : value.drop = value.handle.drop := by
  cases value <;> rfl

end Value

namespace Purpose

def flags : Purpose → Nat
  | .random => randomFlags
  | .suite _ => suiteFlags

def id : Purpose → String
  | .random => randomEngine
  | .suite config => config.id

/-- What is asked of the engine once it is started, in this order. -/
def demands (api : EngineApi ω) : Purpose → List (Demand ω)
  | .random => [.setDefault api randomMethod]
  | .suite config =>
    [.digest api suiteDigest, .registerKeys api] ++ config.control.toList.map (.control api)

def attach (api : EngineApi ω) : Purpose → StateM (Platform ω) (Except Error (Value ω))
  | .random => return (← HardwareRandom.attach api).map .random
  | .suite config => return (← Suite.attach api config).map .suite

/-- Whether the engine is there. That the builtin engines cannot be loaded does not count. -/
def lookup (api : EngineApi ω) (purpose : Purpose) : StateM ω Bool := do
  let _ ← api.loadBuiltin purpose.flags
  api.find purpose.id

end Purpose

/-- Demands made of an engine one after the other, each in the world that the one before has left,
up to the first that is refused. -/
inductive Pursued (engine : EngineRef) : ω → List (Demand ω) → List Call → Option Step → ω → Prop
    where
  | done (world : ω) : Pursued engine world [] [] none world
  | refused {world after : ω} {demand : Demand ω} {rest : List (Demand ω)}
      (answered : demand.ask engine world = (false, after)) :
      Pursued engine world (demand :: rest) [demand.shows engine] (some demand.step) after
  | granted {world after last : ω} {demand : Demand ω} {rest : List (Demand ω)}
      {calls : List Call} {refusal : Option Step}
      (answered : demand.ask engine world = (true, after))
      (more : Pursued engine after rest calls refusal last) :
      Pursued engine world (demand :: rest) (demand.shows engine :: calls) refusal last

/-- An attempt to attach an engine, which gets a reference of its own if it is found: the calls
made, what comes of it, and the outside world afterwards. -/
inductive Attempt (api : EngineApi ω) (purpose : Purpose) (engine : EngineRef) (world : ω) :
    List Call → Except Error (Handle ω) → ω → Prop where
  | missed {after : ω} (looked : purpose.lookup api world = (false, after)) :
      Attempt api purpose engine world
        [.engineLoad purpose.flags, .engineFind purpose.id none]
        (.error (.engineUnavailable purpose.id)) after
  /-- An engine that did not start owns no functional reference. -/
  | unstarted {found after : ω} (looked : purpose.lookup api world = (true, found))
      (start : api.start engine found = (false, after)) :
      Attempt api purpose engine world
        [.engineLoad purpose.flags, .engineFind purpose.id (some engine),
          .engineStart engine false, .engineFree engine]
        (.error (.engineStep purpose.id Step.start.phrase)) (api.free engine after).2
  | refused {found started last : ω} {calls : List Call} {step : Step}
      (looked : purpose.lookup api world = (true, found))
      (start : api.start engine found = (true, started))
      (pursued : Pursued engine started (purpose.demands api) calls (some step) last) :
      Attempt api purpose engine world
        ([.engineLoad purpose.flags, .engineFind purpose.id (some engine),
          .engineStart engine true] ++ calls ++ [.engineFinish engine, .engineFree engine])
        (.error (.engineStep purpose.id step.phrase)) (Handle.parting ⟨api, engine, true⟩ last).2
  | attached {found started last : ω} {calls : List Call}
      (looked : purpose.lookup api world = (true, found))
      (start : api.start engine found = (true, started))
      (pursued : Pursued engine started (purpose.demands api) calls none last) :
      Attempt api purpose engine world
        ([.engineLoad purpose.flags, .engineFind purpose.id (some engine),
          .engineStart engine true] ++ calls)
        (.ok ⟨api, engine, true⟩) last

section

variable {world : ω} {past : List Act} {contents : Slots ω}

/-- As `Asked`, with the number that the next thing gets. -/
def Numbered (next : Nat) (world : ω) (past : List Act) (contents : Slots ω) (s : Platform ω) :
    Prop :=
  s.next = next ∧ Asked world past contents s

namespace Numbered

variable {next : Nat}

theorem record {reported : Bool} {call : Call} :
    Ensures (Numbered next world past contents) (Platform.record reported call) fun _ =>
      Numbered next world (past ++ [.call call]) contents :=
  fun s ⟨same, asked⟩ => ⟨same, Asked.record s asked⟩

theorem consult {α : Type} (answer : StateM ω α) :
    Ensures (Numbered next world past contents) (Platform.consult answer) fun value s =>
      value = (answer world).1 ∧ Numbered next (answer world).2 past contents s := by
  intro s ⟨same, asked⟩
  have after : _ ∧ Asked (answer world).2 past contents (Platform.consult answer s).2 :=
    Asked.consult s asked
  exact ⟨after.1, same, after.2⟩

theorem fresh :
    Ensures (Numbered next world past contents) Platform.fresh fun number s =>
      number = next ∧ Asked world past contents s :=
  fun s ⟨same, asked⟩ => ⟨same, Asked.fresh s asked⟩

end Numbered

-- A question that is shown in the trace as it is asked.
theorem asked_question {α : Type} {reported : Bool} {call : Call} {answer : StateM ω α} :
    Ensures (Asked world past contents)
      (do
        Platform.record reported call
        Platform.consult answer)
      fun value s => value = (answer world).1 ∧
        Asked (answer world).2 (past ++ [.call call]) contents s :=
  Ensures.bind Asked.record fun _ => Asked.consult

namespace Handle

theorem asked_find (api : EngineApi ω) (id : String) {next : Nat} :
    Ensures (Numbered next world past contents) (find api id) fun found s =>
      let looked := api.find id world
      if looked.1 then
        found = .ok ⟨api, ⟨next, id⟩, false⟩ ∧
          Asked looked.2 (past ++ [.call (.engineFind id (some ⟨next, id⟩))]) contents s
      else
        found = .error (.engineUnavailable id) ∧
          Asked looked.2 (past ++ [.call (.engineFind id none)]) contents s := by
  unfold find
  refine Ensures.bind (Numbered.consult _) fun exists? => Ensures.given fun answered => ?_
  simp only [← answered]
  cases exists? with
  | true =>
    refine Ensures.bind Numbered.fresh fun number => Ensures.given fun same => ?_
    subst same
    refine Ensures.bind Asked.record fun _ => ?_
    exact Ensures.pure fun _ asked => ⟨rfl, asked⟩
  | false =>
    refine Ensures.bind (Ensures.strengthen Asked.record fun _ numbered => numbered.2) fun _ => ?_
    refine Ensures.bind Asked.note fun _ => ?_
    exact Ensures.pure fun _ asked => ⟨rfl, asked⟩

theorem asked_stepFailed (handle : Handle ω) (step : Step) :
    Ensures (Asked world past contents) (handle.stepFailed step) fun cause s =>
      cause = .engineStep handle.engine.id step.phrase ∧ Asked world past contents s :=
  Ensures.bind Asked.note fun _ => Ensures.pure fun _ asked => ⟨rfl, asked⟩

theorem asked_start (handle : Handle ω) :
    Ensures (Asked world past contents) handle.start fun started s =>
      let answer := handle.api.start handle.engine world
      started = (if answer.1 then .ok { handle with started := true }
        else .error (.engineStep handle.engine.id Step.start.phrase)) ∧
      Asked answer.2 (past ++ [.call (.engineStart handle.engine answer.1)]) contents s := by
  unfold start
  refine Ensures.bind Asked.consult fun done => Ensures.given fun answered => ?_
  simp only [← answered]
  refine Ensures.bind Asked.record fun _ => ?_
  cases done with
  | true => exact Ensures.pure fun _ asked => ⟨rfl, asked⟩
  | false =>
    refine Ensures.bind (handle.asked_stepFailed .start) fun cause => Ensures.given fun same => ?_
    subst same
    exact Ensures.pure fun _ asked => ⟨rfl, asked⟩

theorem asked_drop_found {handle : Handle ω} (found : handle.started = false) :
    Ensures (Asked world past contents) handle.drop fun _ =>
      Asked (handle.api.free handle.engine world).2
        (past ++ [.call (.engineFree handle.engine)]) contents := by
  unfold drop
  simp only [found]
  exact asked_question.weaken fun _ _ asked => asked.2

/-- What an attempt on a started engine comes to, once its demands are through. -/
def verdict (handle : Handle ω) : Option Step → Except Error (Handle ω)
  | none => .ok handle
  | some step => .error (.engineStep handle.engine.id step.phrase)

end Handle

end

/-- A program makes demands of an engine and nothing else, and fails if one is refused. -/
def Pursues {α : Type} (handle : Handle ω) (owner : α → Handle ω) (demands : List (Demand ω))
    (program : StateM (Platform ω) (Except Error α)) : Prop :=
  ∀ world past contents, Ensures (Asked world past contents) program fun answer s =>
    ∃ calls refusal last, Pursued handle.engine world demands calls refusal last ∧
      answer.map owner = handle.verdict refusal ∧ Asked last (past ++ calls.map .call) contents s

namespace Pursues

variable {α β : Type} {handle : Handle ω} {owner : α → Handle ω}

theorem done {value : α} (owned : owner value = handle) :
    Pursues handle owner [] (pure (.ok value)) := by
  intro world past contents
  refine Ensures.pure fun s asked => ⟨[], none, world, .done world, ?_, ?_⟩
  · exact congrArg Except.ok owned
  · rwa [List.map_nil, List.append_nil]

theorem demand {reported : Bool} (demand : Demand ω) {more : List (Demand ω)}
    {answer : StateM ω β} (yes : β → Bool) {rest : β → StateM (Platform ω) (Except Error α)}
    (asks : demand.ask handle.engine = yes <$> answer)
    (refused : ∀ b, yes b = false → rest b = return .error (← handle.stepFailed demand.step))
    (granted : ∀ b, yes b = true → Pursues handle owner more (rest b)) :
    Pursues handle owner (demand :: more)
      ((do
        Platform.record reported (demand.shows handle.engine)
        Platform.consult answer) >>= rest) := by
  intro world past contents
  refine Ensures.bind asked_question fun b => Ensures.given fun answered => ?_
  have put : demand.ask handle.engine world = (yes b, (answer world).2) := by
    rw [asks, answered]
    rfl
  cases agreed : yes b with
  | false =>
    rw [agreed] at put
    rw [refused b agreed]
    refine Ensures.bind (handle.asked_stepFailed demand.step) fun cause => ?_
    refine Ensures.given fun same => Ensures.pure fun s asked => ?_
    exact ⟨_, _, _, .refused put, congrArg Except.error same, asked⟩
  | true =>
    rw [agreed] at put
    refine (granted b agreed _ _ _).weaken ?_
    rintro result s ⟨calls, refusal, last, pursued, same, asked⟩
    rw [List.append_assoc] at asked
    exact ⟨_, refusal, last, .granted put pursued, same, asked⟩

end Pursues

namespace Purpose

/-- How an engine is attached, for any purpose: found, started and configured, or given back. -/
def attachWith {α : Type} (api : EngineApi ω) (purpose : Purpose) (ready : Handle ω → Notice)
    (configure : Handle ω → StateM (Platform ω) (Except Error α)) :
    StateM (Platform ω) (Except Error α) := do
  Platform.record api.reported (.engineLoad purpose.flags)
  let _ ← Platform.consult (api.loadBuiltin purpose.flags)
  match ← Handle.find api purpose.id with
  | .error cause => return .error cause
  | .ok found =>
    match ← found.start with
    | .error cause =>
      found.drop
      return .error cause
    | .ok handle =>
      match ← configure handle with
      | .error cause =>
        handle.drop
        return .error cause
      | .ok value =>
        Platform.note (ready handle)
        return .ok value

variable {world : ω} {past : List Act} {contents : Slots ω} {next : Nat}

/-- An attempt, to which the next number was given, is all that was done, and decides the answer.
-/
def Attempted {α : Type} (api : EngineApi ω) (purpose : Purpose) (owner : α → Handle ω)
    (next : Nat) (world : ω) (past : List Act) (contents : Slots ω) (answer : Except Error α)
    (s : Platform ω) : Prop :=
  ∃ calls last, Attempt api purpose ⟨next, purpose.id⟩ world calls (answer.map owner) last ∧
    Asked last (past ++ calls.map .call) contents s

theorem attempted_attachWith {α : Type} {api : EngineApi ω} {purpose : Purpose}
    {ready : Handle ω → Notice} {configure : Handle ω → StateM (Platform ω) (Except Error α)}
    {owner : α → Handle ω}
    (pursues : ∀ handle : Handle ω, handle.api = api →
      Pursues handle owner (purpose.demands api) (configure handle)) :
    Ensures (Numbered next world past contents) (purpose.attachWith api ready configure)
      (purpose.Attempted api owner next world past contents) := by
  unfold attachWith
  refine Ensures.bind Numbered.record fun _ => ?_
  refine Ensures.bind (Numbered.consult _) fun _ => Ensures.given fun _ => ?_
  refine Ensures.bind (Handle.asked_find api purpose.id) fun found => ?_
  cases looked : api.find purpose.id (api.loadBuiltin purpose.flags world).2 with | mk exists? after
  cases exists? with
  | false =>
    refine Ensures.given fun same => ?_
    subst same
    refine Ensures.pure fun s asked => ⟨_, _, .missed looked, ?_⟩
    rwa [List.append_assoc] at asked
  | true =>
    refine Ensures.given fun same => ?_
    subst same
    refine Ensures.bind (Handle.asked_start _) fun begun => ?_
    dsimp only
    cases start : api.start ⟨next, purpose.id⟩ after with | mk done later
    refine Ensures.given fun same => ?_
    subst same
    cases done with
    | false =>
      refine Ensures.bind (Handle.asked_drop_found rfl) fun _ => Ensures.pure fun s asked => ?_
      refine ⟨_, _, .unstarted looked start, ?_⟩
      simpa using asked
    | true =>
      refine Ensures.bind (pursues _ rfl _ _ _) fun configured => ?_
      refine Ensures.exists_intro fun calls => Ensures.exists_intro fun refusal => ?_
      refine Ensures.exists_intro fun last => Ensures.given fun pursued => ?_
      refine Ensures.given fun same => ?_
      cases refusal with
      | none =>
        rcases configured with cause | value
        · cases same
        have owned : Except.map owner (.ok value) = .ok ⟨api, ⟨next, purpose.id⟩, true⟩ := same
        refine Ensures.bind Asked.note fun _ => Ensures.pure fun s asked => ?_
        have attached := Attempt.attached looked start pursued
        rw [← owned] at attached
        refine ⟨_, last, attached, ?_⟩
        simpa using asked
      | some step =>
        rcases configured with cause | value
        · obtain rfl := Except.error.inj same
          refine Ensures.bind (Handle.asked_drop rfl) fun _ => Ensures.pure fun s asked => ?_
          refine ⟨_, _, .refused looked start pursued, ?_⟩
          simpa [Handle.releases] using asked
        · cases same

end Purpose

theorem Suite.pursues_configure (handle : Handle ω) (config : SuiteConfig) :
    Pursues handle Suite.handle ((Purpose.suite config).demands handle.api)
      (configure handle config) := by
  unfold configure
  refine Pursues.demand (.digest handle.api suiteDigest) Option.isSome rfl ?_ ?_
  · rintro (_ | digest) lacks
    · rfl
    · cases lacks
  rintro (_ | digest) has
  · cases has
  refine Pursues.demand (.registerKeys handle.api) (fun agreed => agreed) rfl ?_ ?_
  · rintro _ rfl
    rfl
  rintro _ rfl
  cases config.control with
  | none => exact Pursues.done rfl
  | some request =>
    refine Pursues.demand (.control handle.api request) (fun agreed => agreed) rfl ?_ ?_
    · rintro _ rfl
      rfl
    · rintro _ rfl
      exact Pursues.done rfl

theorem Suite.attach_eq (api : EngineApi ω) (config : SuiteConfig) :
    attach api config = (Purpose.suite config).attachWith api
      (fun handle => .engineReady handle.engine.id) (configure · config) := by
  unfold attach Purpose.attachWith
  refine bind_congr fun _ => bind_congr fun _ => bind_congr fun found => ?_
  rcases found with cause | found
  · rfl
  refine bind_congr fun started => ?_
  rcases started with cause | handle
  · rfl
  refine bind_congr fun configured => ?_
  cases configured <;> rfl

namespace HardwareRandom

/-- Makes the engine the default one for random generation. -/
def choose (handle : Handle ω) : StateM (Platform ω) (Except Error (HardwareRandom ω)) := do
  if ← handle.setDefault randomMethod then return .ok ⟨handle⟩
  else return .error (← handle.stepFailed .setDefault)

theorem pursues_choose (handle : Handle ω) :
    Pursues handle HardwareRandom.handle (Purpose.random.demands handle.api) (choose handle) := by
  refine Pursues.demand (.setDefault handle.api randomMethod) (fun agreed => agreed) rfl ?_ ?_
  · rintro _ rfl
    rfl
  · rintro _ rfl
    exact Pursues.done rfl

theorem attach_eq (api : EngineApi ω) :
    attach api = Purpose.random.attachWith api (fun _ => .hardwareRandomReady) choose := by
  unfold attach Purpose.attachWith
  refine bind_congr fun _ => bind_congr fun _ => bind_congr fun found => ?_
  rcases found with cause | found
  · rfl
  refine bind_congr fun started => ?_
  rcases started with cause | handle
  · rfl
  dsimp only
  rw [choose, bind_assoc]
  refine bind_congr fun agreed => ?_
  cases agreed <;> simp

end HardwareRandom

section

variable {world : ω} {past : List Act} {contents : Slots ω} {next : Nat}

theorem HardwareRandom.attempted_attach (api : EngineApi ω) :
    Ensures (Numbered next world past contents) (attach api)
      (Purpose.random.Attempted api HardwareRandom.handle next world past contents) := by
  rw [attach_eq]
  refine Purpose.attempted_attachWith ?_
  rintro handle rfl
  exact pursues_choose handle

theorem Suite.attempted_attach (api : EngineApi ω) (config : SuiteConfig) :
    Ensures (Numbered next world past contents) (attach api config)
      ((Purpose.suite config).Attempted api Suite.handle next world past contents) := by
  rw [attach_eq]
  refine Purpose.attempted_attachWith ?_
  rintro handle rfl
  exact pursues_configure handle config

theorem Purpose.attempted_attach (api : EngineApi ω) (purpose : Purpose) :
    Ensures (Numbered next world past contents) (purpose.attach api)
      (purpose.Attempted api Value.handle next world past contents) := by
  cases purpose with
  | random =>
    refine Ensures.bind (HardwareRandom.attempted_attach api) fun answer => ?_
    cases answer <;> exact Ensures.pure fun _ attempted => attempted
  | suite config =>
    refine Ensures.bind (Suite.attempted_attach api config) fun answer => ?_
    cases answer <;> exact Ensures.pure fun _ attempted => attempted

end

end CryptoProvider.Engine
