import CryptoProvider.Proofs.Locking.Service
import CryptoProvider.Proofs.Locking.Setup
import CryptoProvider.Proofs.Histories

/-!
Lock bridges over whole histories. Any number of them is set up, torn down and dropped, in any order,
while libraries make lock requests and other components write to the callback slots.
-/

set_option autoImplicit false

namespace CryptoProvider.Locking

open Ledger

variable {ω : Type}

/-- The process and the bridges that were set up, in order; none in a place once the bridge is
dropped. -/
structure Client (ω : Type) extends Platform ω where
  bridges : List (Option Bridge)

inductive Operation where
  | setup (registry : Nat)
  | teardown (place : Nat)
  | drop (place : Nat)
  /-- Another component puts a callback, or none, into a registry's slot. -/
  | write (registry : Nat) (callback : Option Callback)
  /-- A library says from now on that it needs another number of locks. -/
  | lockCount (registry : Nat) (count : Int)
  /-- A callback is called, as a library does for each of its locks. -/
  | call (callback : Callback) (mode index : Int32) (file : Option Bytes) (line : Int32)

/-- The place of the bridge that an operation tears down. -/
def Operation.released? : Operation → Option Nat
  | .teardown place | .drop place => some place
  | .setup _ | .write _ _ | .lockCount _ _ | .call _ _ _ _ _ => none

/-- Whether an operation is one of the bridges themselves. -/
def Operation.isOfBridge : Operation → Bool
  | .setup _ | .teardown _ | .drop _ => true
  | .write _ _ | .lockCount _ _ | .call _ _ _ _ _ => false

theorem Operation.released?_of_other {operation : Operation}
    (other : operation.isOfBridge = false) : operation.released? = none := by
  cases operation with
  | setup number => cases other
  | teardown place => cases other
  | drop place => cases other
  | write number callback => rfl
  | lockCount number count => rfl
  | call callback mode index file line => rfl

theorem Operation.isOfBridge_of_released {operation : Operation} {place : Nat}
    (released : operation.released? = some place) : operation.isOfBridge = true := by
  cases own : operation.isOfBridge with
  | true => rfl
  | false =>
    rw [Operation.released?_of_other own] at released
    cases released

namespace Client

/-- A process with one library, which asks for eight locks. -/
def single : Client Unit :=
  { Platform.clean () with registries := [⟨true, false, 8, none⟩], bridges := [] }

/-- The place of the bridge that is set up next. -/
def place (s : Client ω) : Nat :=
  s.bridges.length

def bridge? (s : Client ω) (place : Nat) : Option Bridge :=
  s.bridges[place]?.join

/-- The pool that the bridge in a place published and has not released. -/
def share? (s : Client ω) (place : Nat) : Option PoolShare :=
  (s.bridge? place).bind Bridge.share

def setUp [Memory ω] (number : Nat) (s : Client ω) : Client ω :=
  { toPlatform := (Bridge.setup number s.toPlatform).2
    bridges := s.bridges ++ (Bridge.setup number s.toPlatform).1.toOption.toList.map some }

/-- Tears down the bridge in a place, if there is one, and leaves there what `rest` says. -/
def release (place : Nat) (rest : Bridge → Option Bridge) (s : Client ω) : Client ω :=
  match s.bridge? place with
  | none => s
  | some bridge =>
    { toPlatform := (bridge.teardown s.toPlatform).2
      bridges := s.bridges.set place (rest (bridge.teardown s.toPlatform).1) }

def onPlatform (program : StateM (Platform ω) Unit) (s : Client ω) : Client ω :=
  { s with toPlatform := (program s.toPlatform).2 }

end Client

def Operation.perform [Memory ω] (s : Client ω) : Operation → Client ω
  | .setup number => s.setUp number
  | .teardown place => s.release place some
  | .drop place => s.release place fun _ => none
  | .write number callback => s.onPlatform (Platform.writeCallback number callback)
  | .lockCount number count => s.onPlatform <| modify fun s =>
      { s with registries := s.registries.modify number fun r => { r with lockCount := count } }
  | .call callback mode index file line => s.onPlatform (callback.call mode index file line)

def after [Memory ω] (operations : List Operation) (s : Client ω) : Client ω :=
  operations.foldl Operation.perform s

theorem after_append [Memory ω] (first second : List Operation) (s : Client ω) :
    after (first ++ second) s = after second (after first s) :=
  List.foldl_append

theorem after_snoc [Memory ω] (operations : List Operation) (last : Operation) (s : Client ω) :
    after (operations ++ [last]) s = last.perform (after operations s) :=
  after_append operations [last] s

theorem after_split [Memory ω] (earlier later : List Operation) (operation : Operation)
    (s : Client ω) :
    after (earlier ++ operation :: later) s = after later (after (earlier ++ [operation]) s) := by
  rw [after_append, after_snoc]
  rfl

/-- Nothing was published and no bridge set up yet. -/
structure Untouched (s : Client ω) : Prop where
  pool : s.pool = none
  bridges : s.bridges = []

theorem Bridge.threadSafe_dismantled (bridge : Bridge) (contents : Slots ω) (number : Nat) :
    ((bridge.dismantle contents).registry number).threadSafe =
      (contents.registry number).threadSafe := by
  have withdrawn : ((bridge.withdrawCallback contents).registry number).threadSafe =
      (contents.registry number).threadSafe := by
    unfold withdrawCallback
    split
    · exact Slots.threadSafe_setCallback _ number _
    · rfl
  unfold dismantle
  split <;> exact withdrawn

/-- What an operation does, one case for each way it can go. -/
inductive Performed [Memory ω] (s : Client ω) : Operation → Client ω → Prop where
  | setUp {number : Nat} {made : Except Error Bridge} {t : Platform ω}
      (answered : (Bridge.setup number s.toPlatform).1 = made)
      (setUp : SetUp number s.toPlatform made t) :
      Performed s (.setup number) ⟨t, s.bridges ++ made.toOption.toList.map some⟩
  | absent {operation : Operation} {place : Nat} (released : operation.released? = some place)
      (vacant : s.bridge? place = none) : Performed s operation s
  | released {operation : Operation} {place : Nat} {bridge : Bridge} {rest : Option Bridge}
      {t : Platform ω} (released : operation.released? = some place)
      (held : s.bridge? place = some bridge) (left : rest = none ∨ rest = some bridge.tornDown)
      (told : Told (s.acts ++ bridge.releases (slots s.toPlatform))
        (bridge.dismantle (slots s.toPlatform)) t)
      (next : t.next = s.next) : Performed s operation ⟨t, s.bridges.set place rest⟩
  | wrote {number : Nat} {callback : Option Callback} {t : Platform ω}
      (written : slots t = (slots s.toPlatform).setCallback number callback)
      (next : t.next = s.next) : Performed s (.write number callback) ⟨t, s.bridges⟩
  /-- Nothing that a bridge looks at has changed. -/
  | served {operation : Operation} {t : Platform ω} (own : operation.isOfBridge = false)
      (alike : (slots t).Alike (slots s.toPlatform)) (next : t.next = s.next) :
      Performed s operation ⟨t, s.bridges⟩

theorem performed_release [Memory ω] (s : Client ω) {operation : Operation} {place : Nat}
    (released : operation.released? = some place) {rest : Bridge → Option Bridge}
    (left : ∀ bridge, rest bridge = none ∨ rest bridge = some bridge) :
    Performed s operation (s.release place rest) := by
  unfold Client.release
  cases held : s.bridge? place with
  | none => exact .absent released held
  | some bridge =>
    obtain ⟨answer, next⟩ := bridge.teardown_answer s.toPlatform
    dsimp only
    rw [answer]
    exact .released released held (left bridge.tornDown)
      (bridge.told_teardown s.toPlatform ⟨rfl, rfl⟩) next

theorem performed [Memory ω] (s : Client ω) (operation : Operation) :
    Performed s operation (operation.perform s) := by
  cases operation with
  | setup number => exact .setUp rfl (Bridge.setUp number s.toPlatform)
  | teardown place => exact performed_release s rfl fun _ => .inr rfl
  | drop place => exact performed_release s rfl fun _ => .inl rfl
  | write number callback => exact .wrote rfl rfl
  | lockCount number count =>
    exact .served rfl (.setLockCount (slots s.toPlatform) number count) rfl
  | call callback mode index file line =>
    obtain ⟨alike, next⟩ := alike_call callback mode index file line s.toPlatform
    exact .served rfl alike next

namespace Client

variable {s : Client ω} {t : Platform ω} {place other : Nat} {rest : Option Bridge}

theorem bridge?_set (held : place < s.place) :
    (⟨t, s.bridges.set place rest⟩ : Client ω).bridge? other =
      if other = place then rest else s.bridge? other :=
  Places.held_set held rest

theorem bridge?_append (made : Bridge) :
    (⟨t, s.bridges ++ [some made]⟩ : Client ω).bridge? other =
      if other = s.place then some made else s.bridge? other :=
  Places.held_append (some made)

theorem lt_of_bridge? {bridge : Bridge} (held : s.bridge? place = some bridge) :
    place < s.place :=
  Places.lt_of_held held

theorem share?_append (made : Bridge) :
    (⟨t, s.bridges ++ [some made]⟩ : Client ω).share? other =
      if other = s.place then made.share else s.share? other := by
  unfold share?
  rw [bridge?_append]
  split <;> rfl

theorem share?_released {bridge : Bridge} (held : s.bridge? place = some bridge)
    (left : rest = none ∨ rest = some bridge.tornDown) :
    (⟨t, s.bridges.set place rest⟩ : Client ω).share? other =
      if other = place then none else s.share? other := by
  unfold share?
  rw [bridge?_set (lt_of_bridge? held)]
  rcases left with rfl | rfl <;> split <;> rfl

end Client

namespace Performed

variable {s u : Client ω} {operation : Operation}

/-- Where a bridge comes from: it was there before, was just set up, or is what was left when it was
torn down. -/
theorem origin [Memory ω] (performed : Performed s operation u) {place : Nat} {bridge : Bridge}
    (held : u.bridge? place = some bridge) :
    (s.bridge? place = some bridge ∧ operation.released? ≠ some place) ∨
    (place = s.place ∧
      ∃ number, operation = .setup number ∧ (Bridge.setup number s.toPlatform).1 = .ok bridge) ∨
    ∃ old, s.bridge? place = some old ∧ bridge = old.tornDown := by
  cases performed with
  | @setUp number made now answered setUp =>
    cases made with
    | error cause =>
      change Client.bridge? ⟨now, s.bridges ++ []⟩ place = some bridge at held
      rw [List.append_nil] at held
      exact .inl ⟨held, nofun⟩
    | ok new =>
      change Client.bridge? ⟨now, s.bridges ++ [some new]⟩ place = some bridge at held
      rw [Client.bridge?_append] at held
      split at held
      · next last =>
        cases held
        exact .inr (.inl ⟨last, number, rfl, answered⟩)
      · exact .inl ⟨held, nofun⟩
  | @absent _ other released vacant =>
    refine .inl ⟨held, fun same => ?_⟩
    rw [released] at same
    cases same
    rw [vacant] at held
    cases held
  | @released _ other old rest now released found left told next =>
    rw [Client.bridge?_set (Client.lt_of_bridge? found)] at held
    split at held
    · next same =>
      subst same
      rcases left with rfl | rfl
      · cases held
      · exact .inr (.inr ⟨old, found, (Option.some.inj held).symm⟩)
    · next differs =>
      refine .inl ⟨held, fun same => differs ?_⟩
      rw [released] at same
      exact (Option.some.inj same).symm
  | wrote written next => exact .inl ⟨held, nofun⟩
  | served own alike next =>
    exact .inl ⟨held, by simp [Operation.released?_of_other own]⟩

theorem place_le [Memory ω] (performed : Performed s operation u) : s.place ≤ u.place := by
  cases performed with
  | setUp answered setUp => simp [Client.place]
  | absent released vacant => exact Nat.le_refl _
  | released released held left told next => simp [Client.place]
  | wrote written next => exact Nat.le_refl _
  | served own alike next => exact Nat.le_refl _

-- Whether a library needs a callback never changes.
theorem threadSafe [Memory ω] (performed : Performed s operation u) (number : Nat) :
    (u.registry number).threadSafe = (s.registry number).threadSafe := by
  cases performed with
  | setUp answered setUp =>
    cases setUp with
    | inert safe => rfl
    | refused cause _ locks told next =>
      exact congrArg Registry.threadSafe (registry_of_slots told.2 number)
    | installed pool _ locks vacant size told next =>
      exact (congrArg Registry.threadSafe (registry_of_slots told.2 number)).trans
        (Slots.threadSafe_setCallback _ number _)
    | deferring pool _ locks taken size told next =>
      exact congrArg Registry.threadSafe (registry_of_slots told.2 number)
  | absent released vacant => rfl
  | released released held left told next =>
    exact (congrArg Registry.threadSafe (registry_of_slots told.2 number)).trans
      (Bridge.threadSafe_dismantled _ _ number)
  | wrote written next =>
    exact (congrArg Registry.threadSafe (registry_of_slots written number)).trans
      (Slots.threadSafe_setCallback _ number _)
  | served own alike next => exact alike.threadSafe number

end Performed

theorem threadSafe_after [Memory ω] (operations : List Operation) (s : Client ω) (number : Nat) :
    ((after operations s).registry number).threadSafe = (s.registry number).threadSafe := by
  induction operations generalizing s with
  | nil => rfl
  | cons operation rest ih =>
    exact (ih (operation.perform s)).trans ((performed s operation).threadSafe number)

end CryptoProvider.Locking
