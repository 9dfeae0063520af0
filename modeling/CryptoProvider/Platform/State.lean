import CryptoProvider.Platform.Trace
import CryptoProvider.Locking.Pool

/-!
The state that all parts of the process share: the outside world, the trace, the one transport
slot, the published lock pool and the locking registries.
-/

set_option autoImplicit false

namespace CryptoProvider

/-- A cryptographic library that the process links, as far as its locks go. It keeps in its slot
what was written there last and calls that, so the slot is state of the process; what it decides by
itself, the number of its locks, can change between any two calls. -/
structure Locking.Registry where
  reported : Bool
  /-- Whether the library serializes its own state and needs no callback. -/
  threadSafe : Bool
  lockCount : Int
  callback : Option Locking.Callback
  deriving DecidableEq, Repr

/-- A transport in the slot: the module that holds its code, and its description of itself. -/
structure Transport.Loaded (ω : Type) where
  module : Nat
  info : Static ω (TransportInfo ω)
  library : String

structure Locking.Published where
  number : Nat
  pool : Locking.Pool

structure Platform (ω : Type) where
  outside : ω
  /-- What happened, newest first. -/
  trace : List Event
  next : Nat
  transport : Option (Transport.Loaded ω)
  pool : Option Locking.Published
  registries : List Locking.Registry

namespace Platform

variable {ω : Type}

def clean (outside : ω) : Platform ω :=
  { outside, trace := [], next := 0, transport := none, pool := none, registries := [] }

def events (s : Platform ω) : List Event :=
  s.trace.reverse

/-- Lets the outside world act. -/
def consult {α : Type} (answer : StateM ω α) : StateM (Platform ω) α := fun s =>
  let (a, outside) := answer s.outside
  (a, { s with outside })

/-- Reads through a pointer. -/
def peek {α : Type} (memory : Static ω α) : StateM (Platform ω) α := fun s =>
  (memory.read s.outside, s)

theorem peek_eq {α : Type} (memory : Static ω α) : peek memory = pure memory.value :=
  funext fun s => congrArg (·, s) (memory.unchanged s.outside)

def record (reported : Bool) (call : Call) : StateM (Platform ω) Unit :=
  modify fun s => { s with trace := .call reported call :: s.trace }

def note (notice : Notice) : StateM (Platform ω) Unit :=
  modify fun s => { s with trace := .notice notice :: s.trace }

def setTransport (loaded : Option (Transport.Loaded ω)) : StateM (Platform ω) Unit :=
  modify fun s =>
    { s with
      transport := loaded
      trace := .change (.transport (loaded.map Transport.Loaded.module)) :: s.trace }

def setPool (pool : Option Locking.Published) : StateM (Platform ω) Unit :=
  modify fun s =>
    { s with pool, trace := .change (.pool (pool.map Locking.Published.number)) :: s.trace }

/-- A number that was never given out before. -/
def fresh : StateM (Platform ω) Nat := fun s =>
  (s.next, { s with next := s.next + 1 })

/-- The registry with a number; one that needs no callback if there is none. -/
def registry (s : Platform ω) (number : Nat) : Locking.Registry :=
  s.registries.getD number ⟨false, true, 0, none⟩

def addRegistry (registry : Locking.Registry) : StateM (Platform ω) Nat := fun s =>
  (s.registries.length, { s with registries := s.registries ++ [registry] })

/-- Puts a callback, or none, into a registry's slot, whoever does it. -/
def writeCallback (number : Nat) (callback : Option Locking.Callback) :
    StateM (Platform ω) Unit :=
  modify fun s =>
    { s with registries := s.registries.modify number fun r => { r with callback } }

end Platform

end CryptoProvider
