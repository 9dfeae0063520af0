import CryptoProvider.Platform.State

/-!
Engine handles own a structural reference and, once started, a functional one; dropping a handle
gives back what it owns, the functional reference first.
-/

set_option autoImplicit false

namespace CryptoProvider.Engine

inductive Step where
  | start
  | setDefault
  | digest
  | registerKeys
  | control
  deriving DecidableEq, Repr

def Step.phrase : Step → String
  | start => "initialize"
  | setDefault => "set default RAND for"
  | digest => "get the digest of"
  | registerKeys => "register ASN.1 for"
  | control => "set params of"

structure Handle (ω : Type) where
  api : EngineApi ω
  engine : EngineRef
  /-- Whether it owns a functional reference. -/
  started : Bool

namespace Handle

variable {ω : Type}

def find (api : EngineApi ω) (id : String) :
    StateM (Platform ω) (Except Error (Handle ω)) := do
  if ← Platform.consult (api.find id) then
    let engine : EngineRef := ⟨← Platform.fresh, id⟩
    Platform.record api.reported (.engineFind id (some engine))
    return .ok ⟨api, engine, false⟩
  else
    Platform.record api.reported (.engineFind id none)
    Platform.note (.engineMissing id)
    return .error (.engineUnavailable id)

/-- Gives back what the handle owns. -/
def drop (handle : Handle ω) : StateM (Platform ω) Unit := do
  if handle.started then
    Platform.record handle.api.reported (.engineFinish handle.engine)
    Platform.consult (handle.api.finish handle.engine)
  Platform.record handle.api.reported (.engineFree handle.engine)
  Platform.consult (handle.api.free handle.engine)

def stepFailed (handle : Handle ω) (step : Step) : StateM (Platform ω) Error := do
  Platform.note (.engineStepFailed handle.engine.id step.phrase)
  return .engineStep handle.engine.id step.phrase

def start (handle : Handle ω) : StateM (Platform ω) (Except Error (Handle ω)) := do
  let done ← Platform.consult (handle.api.start handle.engine)
  Platform.record handle.api.reported (.engineStart handle.engine done)
  if done then return .ok { handle with started := true }
  else return .error (← handle.stepFailed .start)

def setDefault (handle : Handle ω) (methods : Nat) : StateM (Platform ω) Bool := do
  Platform.record handle.api.reported (.engineSetDefault handle.engine methods)
  Platform.consult (handle.api.setDefault handle.engine methods)

def digest? (handle : Handle ω) (algorithm : Int) : StateM (Platform ω) (Option Digest) := do
  Platform.record handle.api.reported (.engineDigest handle.engine algorithm)
  Platform.consult (handle.api.digest handle.engine algorithm)

def registerKeys (handle : Handle ω) : StateM (Platform ω) Bool := do
  Platform.record handle.api.reported (.engineRegisterKeys handle.engine)
  Platform.consult (handle.api.registerKeys handle.engine)

/-- Sends a control command, if there is one; whether the engine agreed. -/
def control (handle : Handle ω) : Option (String × String) → StateM (Platform ω) Bool
  | none => return true
  | some (command, argument) => do
    Platform.record handle.api.reported (.engineControl handle.engine command argument)
    Platform.consult (handle.api.control handle.engine command argument)

end Handle

end CryptoProvider.Engine
