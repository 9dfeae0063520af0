import CryptoProvider.Scenario.Report
import CryptoProvider.Scenario.Step.Engine
import CryptoProvider.Scenario.Step.Factory
import CryptoProvider.Scenario.Step.Locking
import CryptoProvider.Scenario.Step.Product
import CryptoProvider.Scenario.Step.Setting
import CryptoProvider.Scenario.Step.Transport

/-! A rehearsal runs step after step and keeps, for each, the answer and what happened meanwhile. -/

set_option autoImplicit false

namespace CryptoProvider.Scenario

inductive Step where
  | factory (step : FactoryStep)
  | product (step : ProductStep)
  | locking (step : LockingStep)
  | compliance (step : ComplianceStep)
  | transport (step : TransportStep)
  | command (step : CommandStep)
  | engine (step : EngineStep)
  | setting (step : SettingStep)
  | drop (slot : String)

/-- A step, and the slot for the object it makes. -/
structure Line where
  step : Step
  slot : Option String

structure Record where
  answer : Answer
  events : List Event

namespace Step

open Session

def dropFrom (slot : String) : StateM Session Outcome :=
  withObject slot some fun object => do
    clear slot
    act object.drop
    return .answered .done

def run : Step → StateM Session Outcome
  | factory step => step.run
  | product step => step.run
  | locking step => step.run
  | compliance step => step.run
  | transport step => step.run
  | command step => step.run
  | engine step => step.run
  | setting step => step.run
  | drop slot => dropFrom slot

end Step

def Record.lines (record : Record) : List String :=
  record.events.filterMap Event.report?

namespace Session

def play (line : Line) : StateM Session Record := do
  let before := (← get).process.trace.length
  let (answer, made) ← line.step.run
  made.forM (place line.slot)
  let trace := (← get).process.trace
  return ⟨answer, (trace.take (trace.length - before)).reverse⟩

def rehearse (script : List Line) : List Record :=
  ((script.mapM play).run clean).1

end Session

end CryptoProvider.Scenario
