import CryptoProvider.Compliance
import CryptoProvider.Engine.HardwareRandom
import CryptoProvider.Engine.Suite
import CryptoProvider.Proofs.Renaming.Platform

/-!
Engines and compliance mode in two runs. What an engine answers may depend on its id, but not on the
number of the reference by which it is asked.
-/

set_option autoImplicit false

namespace CryptoProvider

variable {ω : Type}

section

variable (worlds : ω → ω → Prop)

/-- Engines answer alike in related worlds, by whatever numbers they are asked. -/
structure EngineApi.Steady (api : EngineApi ω) : Prop where
  loadBuiltin : ∀ flags, Agree worlds (api.loadBuiltin flags) (api.loadBuiltin flags)
  find : ∀ id, Agree worlds (api.find id) (api.find id)
  start : ∀ id a b, Agree worlds (api.start ⟨a, id⟩) (api.start ⟨b, id⟩)
  setDefault : ∀ id a b methods,
    Agree worlds (api.setDefault ⟨a, id⟩ methods) (api.setDefault ⟨b, id⟩ methods)
  digest : ∀ id a b algorithm,
    Agree worlds (api.digest ⟨a, id⟩ algorithm) (api.digest ⟨b, id⟩ algorithm)
  registerKeys : ∀ id a b, Agree worlds (api.registerKeys ⟨a, id⟩) (api.registerKeys ⟨b, id⟩)
  control : ∀ id a b command argument,
    Agree worlds (api.control ⟨a, id⟩ command argument) (api.control ⟨b, id⟩ command argument)
  finish : ∀ id a b, Agree worlds (api.finish ⟨a, id⟩) (api.finish ⟨b, id⟩)
  free : ∀ id a b, Agree worlds (api.free ⟨a, id⟩) (api.free ⟨b, id⟩)

structure ComplianceModule.Steady (mode : ComplianceModule ω) : Prop where
  isEnabled : Agree worlds mode.isEnabled mode.isEnabled
  enable : Agree worlds mode.enable mode.enable
  reseed : Agree worlds mode.reseed mode.reseed

end

variable {c : Comparison ω} {outset : Outset}

namespace Engine

namespace Handle

def rename (naming : Nat → Nat) (handle : Handle ω) : Handle ω :=
  { handle with engine := handle.engine.rename naming }

theorem paired_find {api : EngineApi ω} (steady : api.Steady c.worlds) (id : String) :
    Pair (Parallel c outset) (find api id) (find api id) fun found other s t =>
      other = found.map (rename c.naming) ∧
        (∀ handle, found = .ok handle → handle.api = api) ∧ Parallel c outset s t := by
  unfold find
  refine Pair.bind_map (Parallel.consult (steady.find id)) fun found => ?_
  refine Pair.ite (fun _ => ?_) fun _ => ?_
  · refine Pair.bind_map Parallel.fresh_number fun number => ?_
    refine Pair.bind (Parallel.record rfl) fun _ _ => .pure fun _ _ parallel => ⟨rfl, ?_, parallel⟩
    rintro _ ⟨⟩
    rfl
  · refine Pair.bind (Parallel.record rfl) fun _ _ => Pair.bind Parallel.note fun _ _ => ?_
    exact .pure fun _ _ parallel => ⟨rfl, nofun, parallel⟩

variable {handle : Handle ω}

theorem paired_drop (steady : handle.api.Steady c.worlds) :
    Pair (Parallel c outset) handle.drop (handle.rename c.naming).drop fun _ _ =>
      Parallel c outset := by
  have freed : Pair (Parallel c outset)
      (do
        Platform.record handle.api.reported (.engineFree handle.engine)
        Platform.consult (handle.api.free handle.engine))
      (do
        Platform.record handle.api.reported (.engineFree (handle.engine.rename c.naming))
        Platform.consult (handle.api.free (handle.engine.rename c.naming)))
      fun _ _ => Parallel c outset := by
    refine Pair.bind (Parallel.record rfl) fun _ _ => ?_
    exact (Parallel.consult (steady.free _ _ _)).weaken fun _ _ _ _ answered => answered.2
  refine Pair.ite (fun _ => ?_) fun _ => freed
  refine Pair.bind (Parallel.record rfl) fun _ _ => ?_
  exact Pair.bind_map (Parallel.consult (steady.finish _ _ _)) fun _ => freed

theorem paired_stepFailed (step : Step) :
    Pair (Parallel c outset) (handle.stepFailed step) ((handle.rename c.naming).stepFailed step)
      fun cause other s t => other = cause ∧ Parallel c outset s t :=
  .bind Parallel.note fun _ _ => .pure fun _ _ parallel => ⟨rfl, parallel⟩

theorem paired_start (steady : handle.api.Steady c.worlds) :
    Pair (Parallel c outset) handle.start (handle.rename c.naming).start fun started other s t =>
      other = started.map (rename c.naming) ∧
        (∀ begun, started = .ok begun → begun.api = handle.api) ∧ Parallel c outset s t := by
  refine Pair.bind_map (Parallel.consult (steady.start _ _ _)) fun done => ?_
  refine Pair.bind (Parallel.record rfl) fun _ _ => Pair.ite (fun _ => ?_) fun _ => ?_
  · refine .pure fun _ _ parallel => ⟨rfl, ?_, parallel⟩
    rintro _ ⟨⟩
    rfl
  · refine Pair.bind_map (handle.paired_stepFailed _) fun cause => ?_
    exact .pure fun _ _ parallel => ⟨rfl, nofun, parallel⟩

-- A call whose answer is all that is asked for.
theorem paired_call {α : Type} {reported : Bool} {call other : Call} {first second : StateM ω α}
    (same : call.rename c.naming = other) (agree : Agree c.worlds first second) :
    Pair (Parallel c outset)
      (do
        Platform.record reported call
        Platform.consult first)
      (do
        Platform.record reported other
        Platform.consult second)
      fun a b s t => b = a ∧ Parallel c outset s t := by
  subst same
  exact .bind (Parallel.record rfl) fun _ _ => Parallel.consult agree

theorem paired_control (steady : handle.api.Steady c.worlds)
    (command : Option (String × String)) :
    Pair (Parallel c outset) (handle.control command) ((handle.rename c.naming).control command)
      fun agreed other s t => other = agreed ∧ Parallel c outset s t := by
  cases command with
  | none => exact .pure fun _ _ parallel => ⟨rfl, parallel⟩
  | some command => exact paired_call rfl (steady.control _ _ _ _ _)

end Handle

def HardwareRandom.rename (naming : Nat → Nat) (random : HardwareRandom ω) : HardwareRandom ω :=
  ⟨random.handle.rename naming⟩

def Suite.rename (naming : Nat → Nat) (suite : Suite ω) : Suite ω :=
  { suite with handle := suite.handle.rename naming }

theorem HardwareRandom.paired_attach {api : EngineApi ω} (steady : api.Steady c.worlds) :
    Pair (Parallel c outset) (attach api) (attach api) fun attached other s t =>
      other = attached.map (rename c.naming) ∧
        (∀ random, attached = .ok random → random.handle.api = api) ∧ Parallel c outset s t := by
  unfold attach
  refine Pair.bind (Parallel.record rfl) fun _ _ => ?_
  refine Pair.bind_map (Parallel.consult (steady.loadBuiltin _)) fun _ => ?_
  refine Pair.bind_map (Handle.paired_find steady _) fun found => Pair.given fun asked => ?_
  cases found with
  | error cause => exact .pure fun _ _ parallel => ⟨rfl, nofun, parallel⟩
  | ok found =>
    obtain rfl := asked found rfl
    refine Pair.bind_map (Handle.paired_start steady) fun started => Pair.given fun begun => ?_
    cases started with
    | error cause =>
      refine Pair.bind (Handle.paired_drop steady) fun _ _ => ?_
      exact .pure fun _ _ parallel => ⟨rfl, nofun, parallel⟩
    | ok handle =>
      rw [← begun handle rfl] at steady
      refine Pair.bind_map (Handle.paired_call rfl (steady.setDefault _ _ _ _)) fun agreed => ?_
      refine Pair.ite (fun _ => ?_) fun _ => ?_
      · refine Pair.bind Parallel.note fun _ _ => .pure fun _ _ parallel => ⟨rfl, ?_, parallel⟩
        rintro _ ⟨⟩
        exact begun handle rfl
      · refine Pair.bind_map (Handle.paired_stepFailed _) fun cause => ?_
        refine Pair.bind (Handle.paired_drop steady) fun _ _ => ?_
        exact .pure fun _ _ parallel => ⟨rfl, nofun, parallel⟩

namespace Suite

theorem paired_configure {handle : Handle ω} (steady : handle.api.Steady c.worlds)
    (config : SuiteConfig) :
    Pair (Parallel c outset) (configure handle config)
      (configure (handle.rename c.naming) config) fun configured other s t =>
        other = configured.map (rename c.naming) ∧
          (∀ suite, configured = .ok suite → suite.handle.api = handle.api) ∧
          Parallel c outset s t := by
  have failed (step : Step) : Pair (Parallel c outset)
      (do return (.error (← handle.stepFailed step) : Except Error (Suite ω)))
      (do return (.error (← (handle.rename c.naming).stepFailed step) : Except Error (Suite ω)))
      fun configured other s t =>
        other = configured.map (rename c.naming) ∧
          (∀ suite, configured = .ok suite → suite.handle.api = handle.api) ∧
          Parallel c outset s t :=
    Pair.bind_map (Handle.paired_stepFailed _) fun _ =>
      .pure fun _ _ parallel => ⟨rfl, nofun, parallel⟩
  unfold configure
  refine Pair.bind_map (Handle.paired_call rfl (steady.digest _ _ _ _)) fun found => ?_
  cases found with
  | none => exact failed .digest
  | some digest =>
    refine Pair.bind_map (Handle.paired_call rfl (steady.registerKeys _ _ _)) fun registered => ?_
    refine Pair.ite (fun _ => ?_) fun _ => failed .registerKeys
    refine Pair.bind_map (Handle.paired_control steady _) fun agreed => ?_
    refine Pair.ite (fun _ => ?_) fun _ => failed .control
    refine .pure fun _ _ parallel => ⟨rfl, ?_, parallel⟩
    rintro _ ⟨⟩
    rfl

theorem paired_attach {api : EngineApi ω} (steady : api.Steady c.worlds) (config : SuiteConfig) :
    Pair (Parallel c outset) (attach api config) (attach api config) fun attached other s t =>
      other = attached.map (rename c.naming) ∧
        (∀ suite, attached = .ok suite → suite.handle.api = api) ∧ Parallel c outset s t := by
  unfold attach
  refine Pair.bind (Parallel.record rfl) fun _ _ => ?_
  refine Pair.bind_map (Parallel.consult (steady.loadBuiltin _)) fun _ => ?_
  refine Pair.bind_map (Handle.paired_find steady _) fun found => Pair.given fun asked => ?_
  cases found with
  | error cause => exact .pure fun _ _ parallel => ⟨rfl, nofun, parallel⟩
  | ok found =>
    obtain rfl := asked found rfl
    refine Pair.bind_map (Handle.paired_start steady) fun started => Pair.given fun begun => ?_
    cases started with
    | error cause =>
      refine Pair.bind (Handle.paired_drop steady) fun _ _ => ?_
      exact .pure fun _ _ parallel => ⟨rfl, nofun, parallel⟩
    | ok handle =>
      rw [← begun handle rfl] at steady ⊢
      refine Pair.bind_map (paired_configure steady config) fun configured =>
        Pair.given fun kept => ?_
      cases configured with
      | error cause =>
        refine Pair.bind (Handle.paired_drop steady) fun _ _ => ?_
        exact .pure fun _ _ parallel => ⟨rfl, nofun, parallel⟩
      | ok suite =>
        exact Pair.bind Parallel.note fun _ _ => .pure fun _ _ parallel => ⟨rfl, kept, parallel⟩

end Suite

end Engine

theorem Compliance.paired_enter {mode : ComplianceModule ω} (steady : mode.Steady c.worlds) :
    Pair (Parallel c outset) (enter mode) (enter mode) fun entered other s t =>
      other = entered ∧ Parallel c outset s t := by
  unfold enter
  refine Pair.bind_map (Parallel.consult steady.isEnabled) fun enabled => ?_
  refine Pair.bind (Parallel.record rfl) fun _ _ => Pair.ite (fun _ => ?_) fun _ => ?_
  · refine Pair.bind (Parallel.record rfl) fun _ _ => ?_
    refine Pair.bind_map (Parallel.consult steady.reseed) fun _ => ?_
    exact .pure fun _ _ parallel => ⟨rfl, parallel⟩
  · refine Pair.bind_map (Parallel.consult steady.enable) fun done => ?_
    refine Pair.bind (Parallel.record rfl) fun _ _ => Pair.ite (fun _ => ?_) fun _ => ?_
    · exact .bind Parallel.note fun _ _ => .pure fun _ _ parallel => ⟨rfl, parallel⟩
    · exact .bind Parallel.note fun _ _ => .pure fun _ _ parallel => ⟨rfl, parallel⟩

end CryptoProvider
