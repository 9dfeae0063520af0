import CryptoProvider.Scenario.Report
import CryptoProvider.Scenario.Session

/-! Steps on locking registries, callbacks and bridges, and on compliance modules. -/

set_option autoImplicit false

namespace CryptoProvider.Scenario

/-- What to put into a callback slot: nothing, another component's callback, or a saved one. -/
inductive CallbackName where
  | nothing
  | foreign
  | stored (slot : String)

inductive LockingStep where
  | addHost (threadSafe : Bool) (lockCount : Int)
  | installed (host : String)
  | install (host : String) (callback : CallbackName)
  | save (host : String)
  | call (slot : String) (mode index : Int32) (file : Option Bytes) (line : Int32)
  | setUp (host : String)
  | state (slot : String)
  | tearDown (slot : String)

inductive ComplianceStep where
  | add (settings : ComplianceSettings)
  | enter (slot : String)

namespace LockingStep

open Session

def callback? (s : Session) (registry : Nat) : Option Locking.Callback :=
  (s.process.registry registry).callback

def describe (bridge : Locking.Bridge) : Answer :=
  .bridge bridge.state bridge.poolSize

/-- Puts a callback into a registry's slot, as any component may. -/
def write (registry : Nat) (callback : Option Locking.Callback) : StateM Session Outcome := do
  actOnPlatform (Platform.writeCallback registry callback)
  return .answered .done

def run : LockingStep → StateM Session Outcome
  | addHost threadSafe lockCount => do
    let registry ← actOnPlatform (Platform.addRegistry ⟨true, threadSafe, lockCount, none⟩)
    return (.done, some (.host registry))
  | installed host => withObject host Object.host? fun registry => do
    return .answered (.text (Locking.Callback.report (callback? (← get) registry)))
  | install host callback => withObject host Object.host? fun registry =>
    match callback with
    | .nothing => write registry none
    | .foreign => write registry (some (.foreign registry))
    | .stored slot => withObject slot Object.callback? fun saved => write registry (some saved)
  | save host => withObject host Object.host? fun registry => do
    match callback? (← get) registry with
    | some callback => return (.done, some (.callback callback))
    | none => return .answered .nothing
  | call slot mode index file line => withObject slot Object.callback? fun callback => do
    actOnPlatform (callback.call mode index file line)
    return .answered .done
  | setUp host => withObject host Object.host? fun registry => do
    return .ofMade (← actOnPlatform (Locking.Bridge.setup registry)) .bridge describe
  | state slot => withObject slot Object.bridge? fun bridge => return .answered (describe bridge)
  | tearDown slot => withObject slot Object.bridge? fun bridge => do
    put slot (.bridge (← actOnPlatform bridge.teardown))
    return .answered .done

end LockingStep

namespace ComplianceStep

open Session

def run : ComplianceStep → StateM Session Outcome
  | add settings => do
    return (.done, some (.compliance (← actOnStage (Stage.addCompliance settings))))
  | enter slot => withObject slot Object.compliance? fun number => do
    let result ← actOnPlatform (Compliance.enter (complianceModule number))
    return .answered (.ofResult result fun _ => .done)

end ComplianceStep

end CryptoProvider.Scenario
