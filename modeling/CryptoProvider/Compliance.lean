import CryptoProvider.Platform.State

/-! Entering compliance mode. A library that is compliant already is only given a fresh seed. -/

set_option autoImplicit false

namespace CryptoProvider.Compliance

variable {ω : Type}

def enter (mode : ComplianceModule ω) : StateM (Platform ω) (Except Error Unit) := do
  let enabled ← Platform.consult mode.isEnabled
  Platform.record mode.reported (.complianceQuery enabled)
  if enabled then
    Platform.record mode.reported .complianceReseed
    Platform.consult mode.reseed
    return .ok ()
  let done ← Platform.consult mode.enable
  Platform.record mode.reported (.complianceEnable done)
  if done then
    Platform.note .complianceEntered
    return .ok ()
  else
    Platform.note .complianceRefused
    return .error .complianceRefused

end CryptoProvider.Compliance
