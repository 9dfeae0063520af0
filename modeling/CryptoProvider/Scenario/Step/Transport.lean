import CryptoProvider.Scenario.Session
import CryptoProvider.Scenario.Step.Factory

/-! Steps on transports, command libraries and hardware contexts. -/

set_option autoImplicit false

namespace CryptoProvider.Scenario

inductive LoaderScript where
  | listed (libraries : List (String × LibraryScript))
  /-- None: those of a system that has nothing to offer. -/
  | bare

def LoaderScript.loader : LoaderScript → ModuleLoader Stage
  | listed libraries => LibraryScript.loader libraries
  | bare => BareSystem.loader

inductive TransportStep where
  | load (loader : LoaderScript) (name : String) (config : Option String)
  | finalize (slot : String)
  | unload
  | isLoaded
  | describe
  | isPresent (loader : LoaderScript) (name : String)

inductive CommandStep where
  | openLibrary (loader : LoaderScript) (path : String)
  | bringUp (loader : LoaderScript) (path : String) (transport : String)
  | pointers (slot : String)
  | tearDown (slot : String)

namespace TransportStep

open Session

def run : TransportStep → StateM Session Outcome
  | load loader name config => do
    let result ← actOnPlatform (Transport.load loader.loader name config)
    return .ofMade result .transport fun context => .context context.size
  | finalize slot => withObject slot Object.transport? fun context => do
    put slot (.transport (← actOnPlatform context.finalize))
    return .answered .done
  | unload => do
    actOnPlatform Transport.unload
    return .answered .done
  | isLoaded => do
    return .answered (.flag (Transport.isLoaded (← get).process.toPlatform))
  | describe => do
    return .answered (((Transport.describe? (← get).process.toPlatform).map .transport).getD .nothing)
  | isPresent loader name => do
    return .answered (.flag (← actOnPlatform (Transport.isPresent loader.loader name)))

end TransportStep

namespace CommandStep

open Session

def bringUpOver (loader : LoaderScript) (path transport : String) :
    StateM Session (Except Error (Command.Hardware Stage)) := do
  match Transport.Spec.parse transport with
  | .error cause => return .error cause
  | .ok spec => actOnPlatform (Command.Hardware.bringUp loader.loader path spec)

def run : CommandStep → StateM Session Outcome
  | openLibrary loader path => do
    let result ← actOnPlatform (Command.Library.openAt loader.loader path)
    return .ofMade result .library fun _ => .done
  | bringUp loader path transport => do
    return .ofMade (← bringUpOver loader path transport) .hardware fun _ => .done
  | pointers slot => withObject slot Object.hardware? fun hardware =>
    return .answered (FactoryStep.pointers hardware)
  | tearDown slot => withObject slot Object.hardware? fun hardware => do
    put slot (.hardware (← actOnPlatform hardware.teardown))
    return .answered .done

end CommandStep

end CryptoProvider.Scenario
