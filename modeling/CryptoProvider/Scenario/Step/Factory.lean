import CryptoProvider.Scenario.Session

/-! Steps on the factory: demanding instances, looking at them, resetting, and making products. -/

set_option autoImplicit false

namespace CryptoProvider.Scenario

/-- The compliance module of an instance: a fresh one, or the one in a slot. -/
inductive ComplianceChoice where
  | fresh (settings : ComplianceSettings)
  | stored (slot : String)

inductive BackendScript where
  | bare
  | scripted (libraries : List (String × LibraryScript)) (engines : EngineScript)
      (compliance : ComplianceChoice) (host : Option String) (generators : GeneratorScript)

/-- What an instance is demanded with: a configuration, with the notices of reading it, and the
collaborators. -/
structure InstanceScript where
  config : Config.Reading Config
  backends : BackendScript

def freshRegistry : Locking.Registry :=
  ⟨true, false, 8, none⟩

namespace BackendScript

def registry (s : Session) : Option String → Except String (StateM (Process Stage) Nat)
  | none => .ok (Process.onPlatform (Platform.addRegistry freshRegistry))
  | some slot =>
    match (s.object? slot).bind Object.host? with
    | some number => .ok (return number)
    | none => .error slot

def complianceNumber (s : Session) : ComplianceChoice → Except String (StateM (Process Stage) Nat)
  | .fresh settings => .ok (Process.onPlatform (Platform.consult (Stage.addCompliance settings)))
  | .stored slot =>
    match (s.object? slot).bind Object.compliance? with
    | some number => .ok (return number)
    | none => .error slot

def prepare (s : Session) :
    BackendScript → Except String (StateM (Process Stage) (Factory.Backends Stage))
  | bare => .ok do
    return BareSystem.backends (← Process.onPlatform (Platform.addRegistry BareSystem.registry))
  | scripted libraries engines compliance host generators => do
    let registry ← registry s host
    let module ← complianceNumber s compliance
    return do
      return {
        registry := ← registry
        engines := engines.api
        compliance := complianceModule (← module)
        modules := LibraryScript.loader libraries
        generators := generators.source }

end BackendScript

def InstanceScript.options (script : InstanceScript) (s : Session) :
    Except String (StateM (Process Stage) (Factory.Options Stage)) := do
  let backends ← script.backends.prepare s
  let (config, notices) := script.config
  return do
    notices.forM fun notice => Process.onPlatform (Platform.note notice)
    return ⟨config, ← backends⟩

inductive ProductKind where
  | hash (kind : HashKind)
  | mac (kind : MacKind)
  | cipher (kind : CipherKind)
  | scheme (kind : SchemeKind)
  | random (kind : GeneratorKind)

inductive FactoryStep where
  | demand (script : InstanceScript)
  | demandFrom (environment : List (String × Bytes))
  /-- Demands an instance in several threads at once, and keeps one handle. -/
  | demandTogether (threads : Nat) (script : InstanceScript)
  | reset
  | isInitialized
  | capabilities (slot : String)
  | commandPointers (slot : String)
  | make (slot : String) (kind : ProductKind)

namespace FactoryStep

open Session

def withOptions (script : InstanceScript)
    (work : StateM (Process Stage) (Factory.Options Stage) → StateM Session Outcome) :
    StateM Session Outcome := do
  match script.options (← get) with
  | .ok options => work options
  | .error slot => return .misused slot

/-- Demands an instance, with options made beforehand, and tells who holds it already. -/
def demandOne (options : StateM (Process Stage) (Factory.Options Stage)) :
    StateM Session Outcome := do
  let ready ← act options
  let demanded ← act (Factory.demand (return ready))
  let sameAs := (← get).handlesOn demanded.number
  return (.demanded demanded.constructed sameAs, some (.factory demanded.number))

/-- Demands an instance, with options made when it is built. -/
def demandLazily (options : StateM (Process Stage) (Factory.Options Stage)) :
    StateM Session Outcome := do
  let demanded ← act (Factory.demand options)
  return (.done, some (.factory demanded.number))

/-- Each thread demands an instance; all handles but the first are given back. -/
def demandAll (threads : Nat) (options : StateM (Process Stage) (Factory.Options Stage)) :
    StateM Session Outcome := do
  let ready ← act options
  let demanded ← (List.range threads).mapM fun _ => act (Factory.demand (return ready))
  let numbers := demanded.map Factory.Demanded.number
  numbers.tail.forM fun number => act (Factory.dropHandle number)
  let constructed := demanded.countP Factory.Demanded.constructed
  let same := numbers.all fun number => numbers.head? = some number
  return (.crowd constructed same, numbers.head?.map .factory)

def makeProduct (number : Nat) : ProductKind → StateM Session Outcome
  | .hash kind => do
    return .ofMade (← act (Factory.hash number kind)) .hash fun product =>
      .hashProduct product.kind product.size
  | .mac kind => do
    return .ofMade (← act (Factory.mac number kind)) .mac fun product =>
      .macProduct product.kind product.size
  | .cipher kind => do
    return .ofMade (← act (Factory.cipher number kind)) .cipher fun product =>
      .cipherProduct product.kind product.blockSize product.keySizes
  | .scheme kind => do
    return .ofMade (← act (Factory.scheme number kind)) .scheme fun product =>
      .schemeProduct product.kind
  | .random kind => do
    return .ofMade (← act (Factory.random number kind)) .random fun _ => .done

def pointers (hardware : Command.Hardware Stage) : Answer :=
  .pointers hardware.command.isSome hardware.transport.isSome

def run : FactoryStep → StateM Session Outcome
  | demand script => withOptions script demandOne
  | demandFrom environment => withOptions ⟨Config.ofEnvironment environment, .bare⟩ demandLazily
  | demandTogether threads script => withOptions script (demandAll threads)
  | reset => do
    act Factory.reset
    return .answered .done
  | isInitialized => do
    return .answered (.flag (Factory.isInitialized (← get).process))
  | capabilities slot => withObject slot Object.factory? fun number => do
    let process := (← get).process
    return .answered
      (.capabilities (Factory.isReset process number) (Factory.capabilities process number))
  | commandPointers slot => withObject slot Object.factory? fun number => do
    let seen := Factory.withHardware (← get).process number pointers
    return .answered (seen.getD .nothing)
  | make slot kind => withObject slot Object.factory? fun number => makeProduct number kind

end FactoryStep

end CryptoProvider.Scenario
