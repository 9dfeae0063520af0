import CryptoProvider.Config
import CryptoProvider.Engine.Handle

/-! The engine of the alternate cipher suite, with its digest and its signature keys. -/

set_option autoImplicit false

namespace CryptoProvider.Engine

/-- Loads every builtin engine, the algorithms and the library's own configuration. -/
def suiteFlags : Nat := 0x7600 ||| 0x200 ||| 0x2 ||| 0x4 ||| 0x8 ||| 0x40

def suiteDigest : Int := 809

def suiteKeys : Int := 811

structure Suite (ω : Type) where
  handle : Handle ω
  digest : Digest

namespace Suite

variable {ω : Type}

def configure (handle : Handle ω) (config : SuiteConfig) :
    StateM (Platform ω) (Except Error (Suite ω)) := do
  match ← handle.digest? suiteDigest with
  | none => return .error (← handle.stepFailed .digest)
  | some digest =>
    if ← handle.registerKeys then
      if ← handle.control config.control then return .ok ⟨handle, digest⟩
      else return .error (← handle.stepFailed .control)
    else return .error (← handle.stepFailed .registerKeys)

/-- Finds, starts and configures the engine, or gives everything back. -/
def attach (api : EngineApi ω) (config : SuiteConfig) :
    StateM (Platform ω) (Except Error (Suite ω)) := do
  Platform.record api.reported (.engineLoad suiteFlags)
  let _ ← Platform.consult (api.loadBuiltin suiteFlags)
  match ← Handle.find api config.id with
  | .error cause => return .error cause
  | .ok found =>
    match ← found.start with
    | .error cause =>
      found.drop
      return .error cause
    | .ok handle =>
      match ← configure handle config with
      | .error cause =>
        handle.drop
        return .error cause
      | .ok suite =>
        Platform.note (.engineReady handle.engine.id)
        return .ok suite

def id (suite : Suite ω) : String :=
  suite.handle.engine.id

def requestKey (suite : Suite ω) (algorithm : Int) (parameters : List (String × String)) :
    StateM (Platform ω) KeyReply := do
  let api := suite.handle.api
  Platform.record api.reported (.engineKey suite.handle.engine algorithm parameters)
  Platform.consult (api.generateKey suite.handle.engine algorithm parameters)

def drop (suite : Suite ω) : StateM (Platform ω) Unit :=
  suite.handle.drop

end Suite

end CryptoProvider.Engine
