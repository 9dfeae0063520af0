import CryptoProvider.Engine.Handle

/-! The engine that accelerates random generation. -/

set_option autoImplicit false

namespace CryptoProvider.Engine

def randomEngine : String := "rdrand"

/-- Loads the accelerating engine among the builtin ones. -/
def randomFlags : Nat := 0x200

def randomMethod : Nat := 0x8

structure HardwareRandom (ω : Type) where
  handle : Handle ω

namespace HardwareRandom

variable {ω : Type}

/-- Finds and starts the engine and makes it the default, or gives everything back. -/
def attach (api : EngineApi ω) : StateM (Platform ω) (Except Error (HardwareRandom ω)) := do
  Platform.record api.reported (.engineLoad randomFlags)
  let _ ← Platform.consult (api.loadBuiltin randomFlags)
  match ← Handle.find api randomEngine with
  | .error cause => return .error cause
  | .ok found =>
    match ← found.start with
    | .error cause =>
      found.drop
      return .error cause
    | .ok handle =>
      if ← handle.setDefault randomMethod then
        Platform.note .hardwareRandomReady
        return .ok ⟨handle⟩
      else
        let cause ← handle.stepFailed .setDefault
        handle.drop
        return .error cause

def drop (random : HardwareRandom ω) : StateM (Platform ω) Unit :=
  random.handle.drop

end HardwareRandom

end CryptoProvider.Engine
