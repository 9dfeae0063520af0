import CryptoProvider.Scenario.Stage

/-! Asking a collaborator everything it can be asked, and a pool by itself. -/

set_option autoImplicit false

namespace CryptoProvider

/-- A pool with the memory of the stage. -/
def Locking.Pool.allocate (size : Nat) : Except Error Locking.Pool :=
  (Locking.Pool.reserve size (Platform.clean Scenario.Stage.standard)).1

namespace Scenario

/-- What an engine registry answered: to loading, to looking an engine up, and to each step with
it. -/
structure EngineSurvey where
  loaded : Bool
  found : Bool
  steps : List Bool
  deriving DecidableEq, Repr

def surveyEngine {ω : Type} (api : EngineApi ω) (id : String) (flags : Nat) :
    StateM ω EngineSurvey := do
  let engine : EngineRef := ⟨0, id⟩
  let loaded ← api.loadBuiltin flags
  let found ← api.find id
  let started ← api.start engine
  let preferred ← api.setDefault engine 0
  let digest ← api.digest engine 0
  let registered ← api.registerKeys engine
  let controlled ← api.control engine "" ""
  return ⟨loaded, found, [started, preferred, digest.isSome, registered, controlled]⟩

structure ComplianceSurvey where
  enabled : Bool
  accepts : Bool
  deriving DecidableEq, Repr

def surveyCompliance {ω : Type} (mode : ComplianceModule ω) : StateM ω ComplianceSurvey := do
  let enabled ← mode.isEnabled
  let accepts ← mode.enable
  return ⟨enabled, accepts⟩

end Scenario

end CryptoProvider
