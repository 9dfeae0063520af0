import CryptoProvider.Compliance
import CryptoProvider.Factory.Shared

/-!
Building what an instance owns, and taking it down in reverse. Only the generator is mandatory:
without it, or when compliance mode is refused, construction stops there; any other part that
cannot be brought up is left out.
-/

set_option autoImplicit false

namespace CryptoProvider.Factory

variable {ω : Type}

def setUpBridge [Memory ω] (registry : Nat) : StateM (Process ω) (Option Locking.Bridge) := do
  match ← Process.onPlatform (Locking.Bridge.setup registry) with
  | .ok bridge => return some bridge
  | .error cause =>
    Process.onPlatform (Platform.note (.lockBridgeFailed cause))
    return none

/-- Enters compliance mode where it is wanted: whether it was entered, or `none` if it was
refused. -/
def enterCompliance (options : Options ω) : StateM (Process ω) (Option Bool) := do
  if options.config.compliance then
    match ← Process.onPlatform (Compliance.enter options.backends.compliance) with
    | .ok () => return some true
    | .error _ =>
      Process.onPlatform (Platform.note .degraded)
      return none
  else return some false

def attachHardwareRandom (options : Options ω) :
    StateM (Process ω) (Option (Engine.HardwareRandom ω)) := do
  if options.config.hardwareRandom then
    match ← Process.onPlatform (Engine.HardwareRandom.attach options.backends.engines) with
    | .ok random => return some random
    | .error cause =>
      Process.onPlatform (Platform.note (.hardwareRandomUnavailable cause))
      return none
  else return none

def createGenerator (source : GeneratorSource ω) : StateM (Process ω) (Option Nat) := do
  match ← Process.onPlatform (Platform.consult source.create) with
  | .ok generator =>
    let number ← Process.onPlatform Platform.fresh
    Process.onPlatform (Platform.record source.reported (.generatorCreate (some number)))
    return some (← shareGenerator generator number)
  | .error cause =>
    Process.onPlatform (Platform.record source.reported (.generatorCreate none))
    Process.onPlatform (Platform.note (.generatorFailed cause))
    return none

def bringUpHardware [Memory ω] (options : Options ω) :
    StateM (Process ω) (Option (Command.Hardware ω)) := do
  match options.config.transport with
  | none => return none
  | some spec =>
    match ← Process.onPlatform
        (Command.Hardware.bringUp options.backends.modules options.config.commandLibrary spec) with
    | .ok hardware => return some hardware
    | .error cause =>
      Process.onPlatform (Platform.note (.hardwareUnavailable cause))
      return none

def attachSuite (options : Options ω) : StateM (Process ω) (Option Nat) := do
  match options.config.alternateSuite with
  | none => return none
  | some config =>
    match ← Process.onPlatform (Engine.Suite.attach options.backends.engines config) with
    | .ok suite => return some (← shareSuite suite)
    | .error cause =>
      Process.onPlatform (Platform.note (.alternateSuiteUnavailable cause))
      return none

def build [Memory ω] (options : Options ω) : StateM (Process ω) (Subsystems ω) := do
  let lockBridge ← setUpBridge options.backends.registry
  match ← enterCompliance options with
  | none => return ⟨lockBridge, false, none, none, none, none⟩
  | some compliant =>
    let hardwareRandom ← attachHardwareRandom options
    match ← createGenerator options.backends.generators with
    | none => return ⟨lockBridge, compliant, hardwareRandom, none, none, none⟩
    | some generator =>
      let hardware ← bringUpHardware options
      let suite ← attachSuite options
      return ⟨lockBridge, compliant, hardwareRandom, some generator, hardware, suite⟩

/-- Lets the owner's hold on a suite go, and tells if others still hold it. -/
def dismissSuite (number : Nat) : StateM (Process ω) Unit := do
  match (← get).suites[number]? with
  | none => pure ()
  | some shared =>
    if 1 < shared.holders then
      Process.onPlatform (Platform.note (.engineInUse shared.suite.id))
    releaseSuite number

/-- Takes an instance's parts down, the last one built first. -/
def destroy (subsystems : Subsystems ω) : StateM (Process ω) Unit := do
  subsystems.suite.forM dismissSuite
  subsystems.hardware.forM fun hardware => Process.onPlatform hardware.drop
  subsystems.generator.forM releaseGenerator
  subsystems.hardwareRandom.forM fun random => Process.onPlatform random.drop
  subsystems.lockBridge.forM fun bridge => Process.onPlatform do
    let _ ← bridge.teardown
    return ()

end CryptoProvider.Factory
