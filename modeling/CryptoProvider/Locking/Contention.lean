import CryptoProvider.Locking.Pool

/-!
Threads that contend for the locks of one pool. In each round a thread asks for the lock it names,
enters the section behind it once if there is such a lock, leaves and gives the lock back. A thread
whose lock is held cannot take its step; every interleaving of the others' steps is a run.
-/

set_option autoImplicit false

namespace CryptoProvider.Locking

/-- One round of a thread: the lock it names, and the modes it takes and releases it with. -/
structure Round where
  index : Int32
  acquire : Int32
  release : Int32
  deriving DecidableEq, Repr

inductive Phase where
  | outside
  /-- The lock was taken, and the section is not entered yet. -/
  | admitted
  | inside
  /-- The section is behind the thread, and the lock is still to be given back. -/
  | leaving
  deriving DecidableEq, Repr

/-- A thread: the rounds it has not finished, the current one first, and where it stands in it. -/
structure Worker where
  rounds : List Round
  phase : Phase
  deriving DecidableEq, Repr

/-- A call on the pool: the thread that made it, the lock it named, and what came of it. -/
structure PoolCall where
  thread : Nat
  index : Int32
  outcome : Outcome
  deriving DecidableEq, Repr

structure Contention where
  pool : Pool
  workers : List Worker
  /-- What the pool was asked for, latest first. -/
  calls : List PoolCall
  entries : Nat
  /-- How often a section was entered while another thread was in it. -/
  clashes : Nat

namespace Worker

def isInside (worker : Worker) (index : Int32) : Bool :=
  match worker.phase, worker.rounds with
  | .inside, round :: _ => round.index == index
  | _, _ => false

def advance (worker : Worker) : Worker :=
  ⟨worker.rounds.tail, .outside⟩

def isDone (worker : Worker) : Bool :=
  worker.rounds.isEmpty

end Worker

namespace Contention

def start (size : Nat) (plans : List (List Round)) : Contention where
  pool := .free size
  workers := plans.map fun rounds => ⟨rounds, .outside⟩
  calls := []
  entries := 0
  clashes := 0

/-- Calls the pool, and goes on by what comes of it; `none` if the thread has to wait. -/
def call? (number : Nat) (mode index : Int32) (next : Outcome → Worker) (s : Contention) :
    Option Contention :=
  let (outcome, pool) := s.pool.apply mode index
  if outcome = .waiting then none
  else some { s with
    pool
    workers := s.workers.set number (next outcome)
    calls := ⟨number, index, outcome⟩ :: s.calls }

/-- One step of thread `number`; `none` if it has finished or has to wait. -/
def step? (number : Nat) (s : Contention) : Option Contention := do
  let worker ← s.workers[number]?
  let round ← worker.rounds.head?
  match worker.phase with
  | .outside =>
    s.call? number round.acquire round.index fun outcome =>
      { worker with phase := if outcome.applied then .admitted else .leaving }
  | .admitted =>
    let clash := s.workers.any (·.isInside round.index)
    some { s with
      workers := s.workers.set number { worker with phase := .inside }
      entries := s.entries + 1
      clashes := s.clashes + if clash then 1 else 0 }
  | .inside => some { s with workers := s.workers.set number { worker with phase := .leaving } }
  | .leaving => s.call? number round.release round.index fun _ => worker.advance

def isDone (s : Contention) : Bool :=
  s.workers.all Worker.isDone

/-- Lets every thread that can take one step, in order. -/
def sweep (s : Contention) : Contention :=
  (List.range s.workers.length).foldl (fun s number => (step? number s).getD s) s

def run : (fuel : Nat) → Contention → Contention
  | 0, s => s
  | fuel + 1, s => if s.isDone then s else run fuel s.sweep

/-- More sweeps than the threads have steps: every sweep takes at least one. -/
def fuelFor (s : Contention) : Nat :=
  s.workers.foldl (fun steps worker => steps + 4 * worker.rounds.length) 1

def finish (s : Contention) : Contention :=
  run s.fuelFor s

end Contention

end CryptoProvider.Locking
