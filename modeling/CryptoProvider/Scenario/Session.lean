import CryptoProvider.Factory.Dispatch
import CryptoProvider.Scenario.Answer
import CryptoProvider.Scenario.Script

/-!
A rehearsal's objects, each in a slot with a name. An object put into a slot takes the place of
the one that was there, which is dropped when the new one exists; an object that gets no slot is
dropped at once.
-/

set_option autoImplicit false

namespace CryptoProvider.Scenario

inductive Object where
  | factory (number : Nat)
  | hash (product : Product.Hash)
  | mac (product : Product.Mac)
  | cipher (product : Product.Cipher)
  | scheme (product : Product.Scheme)
  | random (product : Product.Random)
  | key (key : Key.Private)
  | host (registry : Nat)
  | callback (callback : Locking.Callback)
  | bridge (bridge : Locking.Bridge)
  | compliance (number : Nat)
  | transport (context : Transport.Context Stage)
  | library (library : Command.Library Stage)
  | hardware (hardware : Command.Hardware Stage)
  | engine (handle : Engine.Handle Stage)
  | hardwareRandom (random : Engine.HardwareRandom Stage)
  /-- An alternate suite that belongs to the slot, by number. -/
  | suite (number : Nat)

def Object.drop : Object → StateM (Process Stage) Unit
  | factory number => Factory.dropHandle number
  | bridge held => Process.onPlatform do
    let _ ← held.teardown
    return ()
  | transport context => Process.onPlatform do
    let _ ← context.finalize
    return ()
  | library opened => Process.onPlatform opened.close
  | hardware context => Process.onPlatform context.drop
  | engine handle => Process.onPlatform handle.drop
  | hardwareRandom attached => Process.onPlatform attached.drop
  | suite number => Factory.releaseSuite number
  | hash _ | mac _ | cipher _ | scheme _ | random _ | key _ | host _ | callback _ | compliance _ =>
    pure ()

structure Session where
  process : Process Stage
  slots : List (String × Object)

abbrev Outcome := Answer × Option Object

namespace Session

def clean : Session :=
  ⟨.clean Stage.standard, []⟩

def act {α : Type} (operation : StateM (Process Stage) α) : StateM Session α := fun s =>
  let (a, process) := operation s.process
  (a, { s with process })

def actOnPlatform {α : Type} (operation : StateM (Platform Stage) α) : StateM Session α :=
  act (Process.onPlatform operation)

def actOnStage {α : Type} (operation : StateM Stage α) : StateM Session α :=
  actOnPlatform (Platform.consult operation)

def object? (s : Session) (slot : String) : Option Object :=
  s.slots.lookup slot

/-- Puts an object into a slot in place of the one that is there, which is not dropped. -/
def put (slot : String) (object : Object) : StateM Session Unit :=
  modify fun s => { s with slots := (slot, object) :: s.slots.filter (·.1 ≠ slot) }

def clear (slot : String) : StateM Session Unit :=
  modify fun s => { s with slots := s.slots.filter (·.1 ≠ slot) }

/-- Finds a place for a new object, and drops what has none. -/
def place (slot : Option String) (object : Object) : StateM Session Unit := do
  match slot with
  | none => act object.drop
  | some slot =>
    let former := (← get).object? slot
    put slot object
    former.forM fun former => act former.drop

def handlesOn (s : Session) (number : Nat) : List String :=
  let names := s.slots.filterMap fun (name, object) =>
    match object with
    | .factory other => if other = number then some name else none
    | _ => none
  names.mergeSort

end Session

namespace Outcome

def answered (answer : Answer) : Outcome :=
  (answer, none)

def misused (slot : String) : Outcome :=
  (.misused s!"slot {slot} does not hold what the step needs", none)

def ofMade {α : Type} (result : Except Error α) (object : α → Object) (answer : α → Answer) :
    Outcome :=
  match result with
  | .ok value => (answer value, some (object value))
  | .error cause => (.failed cause, none)

end Outcome

namespace Session

def withObject {α : Type} (slot : String) (pick : Object → Option α)
    (work : α → StateM Session Outcome) : StateM Session Outcome := do
  match ((← get).object? slot).bind pick with
  | some value => work value
  | none => return .misused slot

end Session

/-! What a step may need of a slot. -/

namespace Object

def factory? : Object → Option Nat
  | factory number => some number
  | _ => none

def hash? : Object → Option Product.Hash
  | hash product => some product
  | _ => none

def mac? : Object → Option Product.Mac
  | mac product => some product
  | _ => none

def cipher? : Object → Option Product.Cipher
  | cipher product => some product
  | _ => none

def scheme? : Object → Option Product.Scheme
  | scheme product => some product
  | _ => none

def random? : Object → Option Product.Random
  | random product => some product
  | _ => none

def key? : Object → Option Key.Private
  | key secret => some secret
  | _ => none

def host? : Object → Option Nat
  | host registry => some registry
  | _ => none

def callback? : Object → Option Locking.Callback
  | callback held => some held
  | _ => none

def bridge? : Object → Option Locking.Bridge
  | bridge held => some held
  | _ => none

def compliance? : Object → Option Nat
  | compliance number => some number
  | _ => none

def transport? : Object → Option (Transport.Context Stage)
  | transport context => some context
  | _ => none

def hardware? : Object → Option (Command.Hardware Stage)
  | hardware context => some context
  | _ => none

def engine? : Object → Option (Engine.Handle Stage)
  | engine handle => some handle
  | _ => none

def suite? : Object → Option Nat
  | suite number => some number
  | _ => none

end Object

end CryptoProvider.Scenario
