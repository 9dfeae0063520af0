import CryptoProvider.Proofs.Factory.Departure

/-!
Operations of several threads, overlapping each other and a reset. An operation begins by taking
hold of what its product needs and ends by letting it go; a reset has the slot to itself from when it
enters until it returns, and takes the parts of the instance down one by one in between. The other
calls are one move each: an instance that is being built is not known to anybody yet.
-/

set_option autoImplicit false

namespace CryptoProvider.Factory

variable {ω : Type}

/-- What an operation holds while it runs. -/
inductive Hold (ω : Type) where
  | suite (place : Nat) (suite : Engine.Suite ω)
  | generator (place : Nat) (shared : SharedGenerator ω)

namespace Hold

def need : Hold ω → Need
  | suite place _ => .suite place
  | generator place _ => .generator place

def engine? : Hold ω → Option EngineRef
  | suite _ held => some held.handle.engine
  | generator _ _ => none

/-- Asks the engine for a key, or the generator for bytes; whether it wants the factory reset before
it answers. -/
def ask (count : Nat) : Hold ω → StateM (Process ω) Bool
  | suite _ held => do
    return (← Process.onPlatform (held.requestKey Engine.suiteKeys [("paramset", "A")])).resets
  | generator _ shared => do
    Process.onPlatform (Platform.record shared.generator.reported (.generate shared.number count))
    return (← Process.onPlatform (Platform.consult (shared.generator.generate count))).resets

theorem ask_suite (count place : Nat) (held : Engine.Suite ω) (s : Process ω) :
    (suite place held).ask count s =
      ((Process.onPlatform (held.requestKey Engine.suiteKeys [("paramset", "A")]) s).1.resets,
        (Process.onPlatform (held.requestKey Engine.suiteKeys [("paramset", "A")]) s).2) :=
  rfl

theorem ask_generator (count place : Nat) (shared : SharedGenerator ω) (s : Process ω) :
    (generator place shared).ask count s =
      let told := (Process.onPlatform
        (Platform.record shared.generator.reported (.generate shared.number count)) s).2
      ((Process.onPlatform (Platform.consult (shared.generator.generate count)) told).1.resets,
        (Process.onPlatform (Platform.consult (shared.generator.generate count)) told).2) :=
  rfl

/-- The engine or the generator goes on after a reset of its own. -/
def resume : Hold ω → StateM (Process ω) Unit
  | suite _ held => Process.onPlatform
      (Platform.record held.handle.api.reported (.engineKeyResumes held.handle.engine))
  | generator _ shared => Process.onPlatform
      (Platform.record shared.generator.reported (.generateResumes shared.number))

def release : Hold ω → StateM (Process ω) Unit
  | suite place _ => releaseSuite place
  | generator place _ => releaseGenerator place

end Hold

namespace Need

/-- Begins an operation, unless nobody holds any more what it needs. -/
def acquire? : Need → StateM (Process ω) (Option (Hold ω))
  | suite place => do return (← acquireSuite? place).map (.suite place)
  | generator place => do return (← acquireGenerator? place).map (.generator place)

theorem acquire?_suite (place : Nat) (s : Process ω) :
    (suite place).acquire? s =
      ((acquireSuite? place s).1.map (.suite place), (acquireSuite? place s).2) :=
  rfl

theorem acquire?_generator (place : Nat) (s : Process ω) :
    (generator place).acquire? s =
      ((acquireGenerator? place s).1.map (.generator place), (acquireGenerator? place s).2) :=
  rfl

/-- What an operation answers that could not begin. -/
def failure : Need → Error
  | suite _ => .instanceReset
  | generator _ => .generatorUnavailable

end Need

/-- What a product cannot do without: the suite of its digest, or the generator. -/
def Made.need? : Made → Option Need
  | .cipher _ | .mac (.cmac _) => none
  | .scheme (.gost source) | .mac (.hmac _ source) => source.suite.map .suite
  | .scheme _ => none
  | .hash product => product.source.suite.map .suite
  | .random product => some (.generator product.generator)

namespace Subsystems

def bare : Subsystems ω :=
  ⟨none, false, none, none, none, none⟩

/-- Takes the part down that was built last; with what is left then. -/
def takeNext (rest : Subsystems ω) : Option (StateM (Process ω) Unit × Subsystems ω) :=
  match rest with
  | ⟨_, _, _, _, _, some place⟩ => some (dismissSuite place, { rest with suite := none })
  | ⟨_, _, _, _, some hardware, none⟩ =>
    some (Process.onPlatform hardware.drop, { rest with hardware := none })
  | ⟨_, _, _, some place, none, none⟩ =>
    some (releaseGenerator place, { rest with generator := none })
  | ⟨_, _, some random, none, none, none⟩ =>
    some (Process.onPlatform random.drop, { rest with hardwareRandom := none })
  | ⟨some bridge, _, none, none, none, none⟩ =>
    some (Process.onPlatform (discard bridge.teardown), { rest with lockBridge := none })
  | ⟨none, _, none, none, none, none⟩ => none

/-- A part is taken down, and what is left then. -/
inductive Taken (rest : Subsystems ω) : StateM (Process ω) Unit → Subsystems ω → Prop where
  | suite (place : Nat) (has : rest.suite = some place) :
      Taken rest (dismissSuite place) { rest with suite := none }
  | hardware (hardware : Command.Hardware ω) (has : rest.hardware = some hardware) :
      Taken rest (Process.onPlatform hardware.drop) { rest with hardware := none }
  | generator (place : Nat) (has : rest.generator = some place) :
      Taken rest (releaseGenerator place) { rest with generator := none }
  | random (random : Engine.HardwareRandom ω) (has : rest.hardwareRandom = some random)
      (earlier : rest.hardware = none) :
      Taken rest (Process.onPlatform random.drop) { rest with hardwareRandom := none }
  | bridge (bridge : Locking.Bridge) (has : rest.lockBridge = some bridge) :
      Taken rest (Process.onPlatform (discard bridge.teardown)) { rest with lockBridge := none }

theorem taken_of_takeNext {rest less : Subsystems ω} {take : StateM (Process ω) Unit}
    (next : rest.takeNext = some (take, less)) : Taken rest take less := by
  unfold takeNext at next
  split at next
  case h_6 => cases next
  all_goals obtain ⟨rfl, rfl⟩ := Prod.mk.inj (Option.some.inj next)
  case h_1 place => exact .suite place rfl
  case h_2 hardware => exact .hardware hardware rfl
  case h_3 place => exact .generator place rfl
  case h_4 random => exact .random random rfl rfl
  case h_5 bridge _ => exact .bridge bridge rfl

theorem nothing_of_takeNext {rest : Subsystems ω} (last : rest.takeNext = none) :
    ∃ compliant, rest = ⟨none, compliant, none, none, none, none⟩ := by
  unfold takeNext at last
  split at last
  case h_6 compliant => exact ⟨compliant, rfl⟩
  all_goals cases last

end Subsystems

/-- How far a reset has got: it has the slot, with the instance still in it, or the instance is out
and these of its parts are to be taken down. -/
inductive Teardown (ω : Type) where
  | entered (number : Nat)
  | dismantling (number : Nat) (rest : Subsystems ω)

/-- The process, the products that were issued and by which instance, what the operations in flight
hold, the one begun last first, and the reset that is going on. -/
structure Traffic (ω : Type) where
  process : Process ω
  products : List (Nat × Made)
  flights : List (Hold ω)
  teardown : Option (Teardown ω)

/-- What a thread does next. Products and operations in flight go by their place in the lists. -/
inductive Move (ω : Type) where
  | demand (options : StateM ω (Options ω))
  | cloneHandle (number : Nat)
  | dropHandle (number : Nat)
  | dispatch (number : Nat) (request : Request)
  | begin (product : Nat)
  | ask (flight count : Nat)
  | resume (flight : Nat)
  | finish (flight : Nat)
  /-- A reset gets the slot. -/
  | reset
  /-- The reset that is going on takes the instance out, takes its next part down, or returns. -/
  | takeDown
  | outside (act : StateM ω Unit)

namespace Traffic

def launch (outside : ω) (hosts : List Locking.Host) : Traffic ω :=
  ⟨Process.launch outside hosts, [], [], none⟩

def onProcess {α : Type} (program : StateM (Process ω) α) (t : Traffic ω) : Traffic ω :=
  { t with process := (program t.process).2 }

/-- The parts of an instance that a reset is taking down. -/
def rest (t : Traffic ω) : Subsystems ω :=
  match t.teardown with
  | some (.dismantling _ rest) => rest
  | _ => .bare

end Traffic

/-- A move that cannot be made is none: a demand and a reset wait for the reset that is going on. -/
def Move.run [Memory ω] (move : Move ω) (t : Traffic ω) : Traffic ω :=
  match move with
  | .demand options =>
    if t.teardown.isSome then t
    else t.onProcess (Factory.demand (Process.onPlatform (Platform.consult options)))
  | .cloneHandle number => t.onProcess (changeHandles number (· + 1))
  | .dropHandle number => t.onProcess (Factory.dropHandle number)
  | .dispatch number request =>
    let (reply, process) := Factory.dispatch number request t.process
    { t with process, products := t.products ++ (reply.toOption.map fun made => (number, made)).toList }
  | .begin product =>
    match t.products[product]?.bind fun issued => issued.2.need? with
    | none => t
    | some need =>
      let (hold, process) := need.acquire? t.process
      { t with process, flights := hold.toList ++ t.flights }
  | .ask flight count =>
    match t.flights[flight]? with
    | none => t
    | some hold => t.onProcess (hold.ask count)
  | .resume flight =>
    match t.flights[flight]? with
    | none => t
    | some hold => t.onProcess hold.resume
  | .finish flight =>
    match t.flights[flight]? with
    | none => t
    | some hold => { t.onProcess hold.release with flights := t.flights.eraseIdx flight }
  | .reset =>
    match t.teardown, t.process.current with
    | none, some number =>
      { t.onProcess (tellHandles number) with teardown := some (.entered number) }
    | _, _ => t
  | .takeDown =>
    match t.teardown with
    | none => t
    | some (.entered number) =>
      { t with
        process := detach number t.process
        teardown := some (.dismantling number ((subsystems? t.process number).getD .bare)) }
    | some (.dismantling number rest) =>
      match rest.takeNext with
      | none => { t with teardown := none }
      | some (take, rest) =>
        { t.onProcess take with teardown := some (.dismantling number rest) }
  | .outside act => t.onProcess (Process.onPlatform (Platform.consult act))

namespace Traffic

def after [Memory ω] (moves : List (Move ω)) (t : Traffic ω) : Traffic ω :=
  moves.foldl (fun t move => move.run t) t

theorem after_cons [Memory ω] (move : Move ω) (moves : List (Move ω)) (t : Traffic ω) :
    after (move :: moves) t = after moves (move.run t) :=
  rfl

theorem after_append [Memory ω] (first second : List (Move ω)) (t : Traffic ω) :
    after (first ++ second) t = after second (after first t) :=
  List.foldl_append

theorem after_induction [Memory ω] (invariant : Traffic ω → Prop)
    (keeps : ∀ (move : Move ω) t, invariant t → invariant (move.run t)) (moves : List (Move ω))
    {t : Traffic ω} (holds : invariant t) : invariant (after moves t) := by
  induction moves generalizing t with
  | nil => exact holds
  | cons move moves ih => exact ih (keeps move t holds)

theorem run_begin [Memory ω] {t : Traffic ω} {product : Nat} {need : Need}
    (needs : (t.products[product]?.bind fun issued => issued.2.need?) = some need) :
    (Move.begin product).run t =
      { t with
        process := (need.acquire? t.process).2
        flights := (need.acquire? t.process).1.toList ++ t.flights } := by
  simp only [Move.run, needs]
  rfl

end Traffic

/-- What a move can do to the traffic: nothing, if it cannot be made, or one of these. -/
inductive Advance [Memory ω] (t : Traffic ω) : Traffic ω → Prop where
  | still : Advance t t
  | built (options : StateM ω (Options ω)) (free : t.teardown = none)
      (vacant : t.process.current = none) :
      Advance t (t.onProcess (Process.onPlatform (Platform.consult options) >>= construct))
  | handled (number : Nat) (change : Nat → Nat) :
      Advance t (t.onProcess (changeHandles number change))
  | dispatched (number : Nat) (request : Request) :
      Advance t
        { t with
          process := (dispatch number request t.process).2
          products := t.products ++ ((dispatch number request t.process).1.toOption.map
            fun made => (number, made)).toList }
  | begun (product : Nat) (need : Need)
      (needs : (t.products[product]?.bind fun issued => issued.2.need?) = some need) :
      Advance t
        { t with
          process := (need.acquire? t.process).2
          flights := (need.acquire? t.process).1.toList ++ t.flights }
  | asked (hold : Hold ω) (flies : hold ∈ t.flights) (count : Nat) :
      Advance t (t.onProcess (hold.ask count))
  | resumed (hold : Hold ω) (flies : hold ∈ t.flights) : Advance t (t.onProcess hold.resume)
  | finished (flight : Nat) (hold : Hold ω) (found : t.flights[flight]? = some hold) :
      Advance t { t.onProcess hold.release with flights := t.flights.eraseIdx flight }
  | entered (number : Nat) (free : t.teardown = none) (current : t.process.current = some number) :
      Advance t { t.onProcess (tellHandles number) with teardown := some (.entered number) }
  | detached (number : Nat) (stage : t.teardown = some (.entered number)) :
      Advance t
        { t with
          process := detach number t.process
          teardown :=
            some (.dismantling number ((subsystems? t.process number).getD .bare)) }
  | taken (number : Nat) (rest : Subsystems ω)
      (stage : t.teardown = some (.dismantling number rest)) (take : StateM (Process ω) Unit)
      (less : Subsystems ω) (part : rest.Taken take less) :
      Advance t { t.onProcess take with teardown := some (.dismantling number less) }
  | returned (number : Nat) (rest : Subsystems ω)
      (stage : t.teardown = some (.dismantling number rest)) (last : rest.takeNext = none) :
      Advance t { t with teardown := none }
  | acted (act : StateM ω Unit) :
      Advance t (t.onProcess (Process.onPlatform (Platform.consult act)))

-- Whoever demands is given another handle, or there is no instance yet and one is built.
theorem Advance.of_demand [Memory ω] {t : Traffic ω} (free : t.teardown = none)
    (options : StateM ω (Options ω)) :
    Advance t (t.onProcess (demand (Process.onPlatform (Platform.consult options)))) := by
  cases current : t.process.current with
  | some number =>
    rw [Traffic.onProcess, demand_of_current current]
    exact .handled number (· + 1)
  | none =>
    rw [Traffic.onProcess, demand_of_none current]
    exact .built options free current

theorem Move.advance [Memory ω] (move : Move ω) (t : Traffic ω) : Advance t (move.run t) := by
  cases move with
  | demand options =>
    unfold Move.run
    cases free : t.teardown with
    | some teardown => exact .still
    | none => exact .of_demand free options
  | cloneHandle number => exact .handled number _
  | dropHandle number => exact .handled number (· - 1)
  | dispatch number request => exact .dispatched number request
  | begin product =>
    unfold Move.run
    dsimp only
    split
    case h_1 => exact .still
    case h_2 need needs => exact .begun product need needs
  | ask flight count =>
    unfold Move.run
    dsimp only
    split
    case h_1 => exact .still
    case h_2 hold found => exact .asked hold (List.mem_of_getElem? found) count
  | resume flight =>
    unfold Move.run
    dsimp only
    split
    case h_1 => exact .still
    case h_2 hold found => exact .resumed hold (List.mem_of_getElem? found)
  | finish flight =>
    unfold Move.run
    dsimp only
    split
    case h_1 => exact .still
    case h_2 hold found => exact .finished flight hold found
  | reset =>
    unfold Move.run
    dsimp only
    split
    case h_1 number free current => exact .entered number free current
    case h_2 => exact .still
  | takeDown =>
    unfold Move.run
    dsimp only
    split
    case h_1 => exact .still
    case h_2 number stage => exact .detached number stage
    case h_3 number rest stage =>
      split
      case h_1 last => exact .returned number rest stage last
      case h_2 take less next =>
        exact .taken number rest stage take less (Subsystems.taken_of_takeNext next)
  | outside act => exact .acted act

end CryptoProvider.Factory
