import CryptoProvider.Scenario.Session
import CryptoProvider.Scenario.Use

/-! Steps on engines and on alternate suites that belong to no instance. -/

set_option autoImplicit false

namespace CryptoProvider.Scenario

inductive SuiteProduct where
  | hash
  | mac
  | scheme

inductive EngineStep where
  | find (engines : EngineScript) (id : String)
  | start (slot : String)
  | attachRandom (engines : EngineScript)
  | attachSuite (engines : EngineScript) (config : Engine.SuiteConfig)
  | requestKey (slot : String) (algorithm : Int) (parameters : List (String × String))
  | make (slot : String) (product : SuiteProduct)

namespace EngineStep

open Session

/-- Starts an engine; one that refuses stays as it was. -/
def startHandle (slot : String) (handle : Engine.Handle Stage) : StateM Session Answer := do
  match ← actOnPlatform handle.start with
  | .error cause => return .failed cause
  | .ok started =>
    put slot (.engine started)
    return .done

def makeProduct (number : Nat) (suite : Engine.Suite Stage) : SuiteProduct → Outcome
  | .hash =>
    let product := Product.Hash.ofSuite number suite
    (.hashProduct product.kind product.size, some (.hash product))
  | .mac =>
    let product := Product.Mac.ofSuite number suite
    (.macProduct product.kind product.size, some (.mac product))
  | .scheme =>
    let product := Product.Scheme.ofSuite number suite
    (.schemeProduct product.kind, some (.scheme product))

def withSuite (slot : String) (work : Nat → Engine.Suite Stage → StateM Session Outcome) :
    StateM Session Outcome :=
  withObject slot Object.suite? fun number => do
    match (← get).process.suites[number]? with
    | some shared => work number shared.suite
    | none => return .misused slot

def run : EngineStep → StateM Session Outcome
  | find engines id => do
    let result ← actOnPlatform (Engine.Handle.find engines.api id)
    return .ofMade result .engine fun handle => .text handle.engine.id
  | start slot => withObject slot Object.engine? fun handle => do
    return .answered (← startHandle slot handle)
  | attachRandom engines => do
    let result ← actOnPlatform (Engine.HardwareRandom.attach engines.api)
    return .ofMade result .hardwareRandom fun random => .text random.handle.engine.id
  | attachSuite engines config => do
    match ← actOnPlatform (Engine.Suite.attach engines.api config) with
    | .error cause => return .answered (.failed cause)
    | .ok suite =>
      let number ← act (Factory.shareSuite suite)
      return (.suite suite.id suite.digest.size, some (.suite number))
  | requestKey slot algorithm parameters => withSuite slot fun _ suite => do
    let result ← act (Product.Scheme.requestKey suite algorithm parameters)
    return .ofMade result .key fun key => .key (.ofKey key)
  | make slot product => withSuite slot fun number suite =>
    return makeProduct number suite product

end EngineStep

end CryptoProvider.Scenario
