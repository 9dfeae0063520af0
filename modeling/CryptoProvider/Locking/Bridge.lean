import CryptoProvider.Platform.Memory
import CryptoProvider.Text.Utf8

/-!
The lock bridge serves a cryptographic library that needs a locking callback: it publishes a pool as
large as the library asks for and installs its callback where none is. It takes down only what is
still its own.
-/

set_option autoImplicit false

namespace CryptoProvider.Locking

/-- Who owns a library's callback slot, as a bridge knows it. -/
inductive CallbackState where
  | notInstalled
  | installedByUs
  | installedByOther
  deriving DecidableEq, Repr

structure PoolShare where
  number : Nat
  size : Nat
  deriving DecidableEq, Repr

structure Bridge where
  registry : Nat
  /-- The pool it published and has not released. -/
  share : Option PoolShare
  state : CallbackState
  deriving DecidableEq, Repr

namespace Bridge

variable {ω : Type}

def poolSize (bridge : Bridge) : Nat :=
  (bridge.share.map PoolShare.size).getD 0

def allocate [Memory ω] (count : Int) : StateM (Platform ω) (Except Error Pool) :=
  if count ≤ 0 then return .error (.lockPoolSize count)
  else Pool.reserve count.toNat

/-- Installs the bridge's callback in an empty slot and leaves any other in place. -/
def install (number : Nat) : StateM (Platform ω) CallbackState := do
  let registry := (← get).registry number
  match registry.callback with
  | none =>
    Platform.record registry.reported (.callbackSet number (some .bridge))
    Platform.writeCallback number (some .bridge)
    return .installedByUs
  | some _ =>
    Platform.note .callbackAlreadyInstalled
    return .installedByOther

/-- Sets a bridge up for the library behind a registry; an inert one if it needs no callback. -/
def setup [Memory ω] (number : Nat) : StateM (Platform ω) (Except Error Bridge) := do
  let registry := (← get).registry number
  if registry.threadSafe then return .ok ⟨number, none, .notInstalled⟩
  Platform.record registry.reported (.lockCount number registry.lockCount)
  match ← allocate registry.lockCount with
  | .error cause => return .error cause
  | .ok pool =>
    let share ← Platform.fresh
    Platform.setPool (some ⟨share, pool⟩)
    let state ← install number
    return .ok ⟨number, some ⟨share, pool.size⟩, state⟩

def ownsPool (bridge : Bridge) (s : Platform ω) : Bool :=
  match bridge.share, s.pool with
  | some share, some published => share.number == published.number
  | _, _ => false

/-- Takes the callback out if it is the bridge's own and its pool is still in use. -/
def removeCallback (bridge : Bridge) (ownsPool : Bool) : StateM (Platform ω) Unit := do
  let registry := (← get).registry bridge.registry
  if registry.callback = some .bridge ∧ ownsPool then
    Platform.record registry.reported (.callbackSet bridge.registry none)
    Platform.writeCallback bridge.registry none
  else Platform.note .callbackChangedHands

/-- Takes down what is still the bridge's own: first the callback, then the pool. -/
def teardown (bridge : Bridge) : StateM (Platform ω) Bridge := do
  let ownsPool := bridge.ownsPool (← get)
  if bridge.state = .installedByUs then removeCallback bridge ownsPool
  if ownsPool then Platform.setPool none
  return { bridge with
    share := none
    state := if bridge.state = .installedByUs then .notInstalled else bridge.state }

end Bridge

variable {ω : Type}

def serve (mode index : Int32) (file : Option Bytes) (line : Int32) :
    StateM (Platform ω) Unit := do
  match (← get).pool with
  | none => Platform.note .noLockPool
  | some published =>
    let (outcome, pool) := published.pool.apply mode index
    modify fun s => { s with pool := some { published with pool } }
    match outcome with
    | .outOfRange =>
      let place := (file.map Text.ofTerminated).getD "<unknown>"
      Platform.note (.lockOutOfRange published.pool.size index.toInt place line.toInt)
    | outcome => (outcome.notice? index).forM Platform.note

def Callback.call (callback : Callback) (mode index : Int32) (file : Option Bytes) (line : Int32) :
    StateM (Platform ω) Unit :=
  match callback with
  | .bridge => serve mode index file line
  | .foreign owner =>
    Platform.record true (.foreignCallback owner mode.toInt index.toInt line.toInt)

end CryptoProvider.Locking
