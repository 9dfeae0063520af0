import CryptoProvider.Command.Hardware
import CryptoProvider.Compliance
import CryptoProvider.Engine.HardwareRandom
import CryptoProvider.Engine.Suite
import CryptoProvider.Proofs.Ledger.Accounts

/-!
Operations that leave the shared slots alone, from whatever state. Engines and compliance never
touch them; of the transport loader only a load that succeeds and an unload do.
-/

set_option autoImplicit false

namespace CryptoProvider

open Ledger

variable {ω : Type}

def Calm {α : Type} (program : StateM (Platform ω) α) : Prop :=
  ∀ s, slots (program s).2 = slots s

namespace Calm

variable {α β : Type}

theorem pure (value : α) : Calm (Pure.pure value : StateM (Platform ω) α) :=
  fun _ => rfl

theorem bind {program : StateM (Platform ω) α} {rest : α → StateM (Platform ω) β}
    (first : Calm program) (next : ∀ value, Calm (rest value)) : Calm (program >>= rest) := by
  intro s
  rw [bind_apply]
  exact (next _ _).trans (first s)

theorem get : Calm (MonadState.get : StateM (Platform ω) (Platform ω)) :=
  fun _ => rfl

theorem consult (answer : StateM ω α) : Calm (Platform.consult answer) :=
  fun _ => rfl

theorem record (reported : Bool) (call : Call) : Calm (Platform.record (ω := ω) reported call) :=
  fun _ => rfl

theorem note (notice : Notice) : Calm (Platform.note (ω := ω) notice) :=
  fun _ => rfl

theorem fresh : Calm (Platform.fresh (ω := ω)) :=
  fun _ => rfl

theorem ite {condition : Prop} [Decidable condition] {first second : StateM (Platform ω) α}
    (yes : Calm first) (no : Calm second) : Calm (if condition then first else second) := by
  split
  · exact yes
  · exact no

end Calm

namespace OpenModule

theorem calm_open? (loader : ModuleLoader ω) (path : String) : Calm (open? loader path) := by
  unfold open?
  apply Calm.bind (.consult _)
  intro found
  cases found with
  | none => exact .bind (.record _ _) fun _ => .pure _
  | some exports => exact .bind .fresh fun _ => .bind (.record _ _) fun _ => .pure _

end OpenModule

namespace Engine

namespace Handle

theorem calm_find (api : EngineApi ω) (id : String) : Calm (find api id) := by
  unfold find
  apply Calm.bind (.consult _)
  intro found
  cases found with
  | false => exact .bind (.record _ _) fun _ => .bind (.note _) fun _ => .pure _
  | true => exact .bind .fresh fun _ => .bind (.record _ _) fun _ => .pure _

variable (handle : Handle ω)

theorem calm_drop : Calm handle.drop := by
  have freed : Calm (do
      Platform.record handle.api.reported (.engineFree handle.engine)
      Platform.consult (handle.api.free handle.engine)) := .bind (.record _ _) fun _ => .consult _
  exact .ite (.bind (.record _ _) fun _ => .bind (.consult _) fun _ => freed) freed

theorem calm_stepFailed (step : Step) : Calm (handle.stepFailed step) :=
  .bind (.note _) fun _ => .pure _

theorem calm_start : Calm handle.start :=
  .bind (.consult _) fun _ => .bind (.record _ _) fun _ =>
    .ite (.pure _) (.bind (handle.calm_stepFailed _) fun _ => .pure _)

theorem calm_control (command : Option (String × String)) : Calm (handle.control command) := by
  cases command with
  | none => exact .pure _
  | some command => exact .bind (.record _ _) fun _ => .consult _

-- A call whose answer is all that is asked for.
theorem calm_call {α : Type} (reported : Bool) (call : Call) (answer : StateM ω α) :
    Calm (do
      Platform.record reported call
      Platform.consult answer) :=
  .bind (.record _ _) fun _ => .consult _

theorem calm_giveBack {α : Type} (cause : Error) :
    Calm (do
      handle.drop
      return (.error cause : Except Error α)) :=
  .bind handle.calm_drop fun _ => .pure _

end Handle

theorem HardwareRandom.calm_attach (api : EngineApi ω) : Calm (attach api) := by
  unfold attach
  apply Calm.bind (.record _ _)
  intro _
  apply Calm.bind (.consult _)
  intro _
  apply Calm.bind (Handle.calm_find api _)
  intro found
  cases found with
  | error cause => exact .pure _
  | ok found =>
    apply Calm.bind found.calm_start
    intro started
    cases started with
    | error cause => exact found.calm_giveBack cause
    | ok handle =>
      apply Calm.bind (Handle.calm_call _ _ _)
      intro agreed
      refine Calm.ite (.bind (.note _) fun _ => .pure _) ?_
      exact .bind (handle.calm_stepFailed _) fun cause => handle.calm_giveBack cause

namespace Suite

theorem calm_configure (handle : Handle ω) (config : SuiteConfig) :
    Calm (configure handle config) := by
  have failed : ∀ step, Calm (do
      return (.error (← handle.stepFailed step) : Except Error (Suite ω))) :=
    fun step => .bind (handle.calm_stepFailed step) fun _ => .pure _
  unfold configure
  apply Calm.bind (Handle.calm_call _ _ _)
  intro found
  cases found with
  | none => exact failed .digest
  | some digest =>
    apply Calm.bind (Handle.calm_call _ _ _)
    intro registered
    refine Calm.ite ?_ (failed .registerKeys)
    exact .bind (handle.calm_control _) fun _ => .ite (.pure _) (failed .control)

theorem calm_attach (api : EngineApi ω) (config : SuiteConfig) : Calm (attach api config) := by
  unfold attach
  apply Calm.bind (.record _ _)
  intro _
  apply Calm.bind (.consult _)
  intro _
  apply Calm.bind (Handle.calm_find api _)
  intro found
  cases found with
  | error cause => exact .pure _
  | ok found =>
    apply Calm.bind found.calm_start
    intro started
    cases started with
    | error cause => exact found.calm_giveBack cause
    | ok handle =>
      apply Calm.bind (calm_configure handle config)
      intro configured
      cases configured with
      | error cause => exact handle.calm_giveBack cause
      | ok suite => exact .bind (.note _) fun _ => .pure _

end Suite

end Engine

theorem Compliance.calm_enter (mode : ComplianceModule ω) : Calm (enter mode) := by
  unfold enter
  apply Calm.bind (.consult _)
  intro enabled
  apply Calm.bind (.record _ _)
  intro _
  refine Calm.ite (.bind (.record _ _) fun _ => .bind (.consult _) fun _ => .pure _) ?_
  apply Calm.bind (.consult _)
  intro done
  apply Calm.bind (.record _ _)
  intro _
  exact .ite (.bind (.note _) fun _ => .pure _) (.bind (.note _) fun _ => .pure _)

namespace Transport

theorem Context.calm_finalize (context : Context ω) : Calm context.finalize := by
  rw [finalize_eq]
  refine Calm.ite (.pure _) ?_
  cases context.finalizer? with
  | none => exact .pure _
  | some finalizer =>
    exact .bind .get fun _ => .bind (.record _ _) fun _ => .bind (.consult _) fun _ => .pure _

theorem calm_openConventional (loader : ModuleLoader ω) (name : String) :
    Calm (openConventional loader name) := by
  unfold openConventional
  cases libraryName? name with
  | none => exact .bind (.note _) fun _ => .pure _
  | some path => exact OpenModule.calm_open? loader path

theorem calm_isPresent (loader : ModuleLoader ω) (name : String) :
    Calm (isPresent loader name) := by
  apply Calm.bind (calm_openConventional loader name)
  intro opened?
  cases opened? with
  | none => exact .pure _
  | some opened => exact .bind (.record _ _) fun _ => .pure _

end Transport

end CryptoProvider
