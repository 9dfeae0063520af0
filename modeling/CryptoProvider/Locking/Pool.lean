import CryptoProvider.Notice

/-!
A pool of exclusive sections, numbered from zero. A call names a lock and says by one bit of its
mode whether to take or to release it; the pool is the set of locks held.
-/

set_option autoImplicit false

namespace CryptoProvider.Locking

def acquireBit : Int32 := 1

def acquires (mode : Int32) : Bool :=
  mode &&& acquireBit ≠ 0

structure Pool where
  size : Nat
  held : Fin size → Bool

inductive Outcome where
  /-- No such lock; nothing changed. -/
  | outOfRange
  | taken
  | released
  /-- A release of a lock that nobody holds; nothing changed. -/
  | notHeld
  /-- The lock is held by another, and the caller waits; nothing changed yet. -/
  | waiting
  deriving DecidableEq, Repr

def Outcome.applied : Outcome → Bool
  | outOfRange => false
  | _ => true

def Outcome.notice? (index : Int32) : Outcome → Option Notice
  | notHeld => some (.unheldLock index.toInt)
  | outOfRange | taken | released | waiting => none

namespace Pool

def free (size : Nat) : Pool :=
  ⟨size, fun _ => false⟩

def lock? (pool : Pool) (index : Int32) : Option (Fin pool.size) :=
  let place := index.toInt
  if h : 0 ≤ place ∧ place.toNat < pool.size then some ⟨place.toNat, h.2⟩ else none

def set (pool : Pool) (lock : Fin pool.size) (held : Bool) : Pool :=
  ⟨pool.size, fun other => if other = lock then held else pool.held other⟩

def apply (pool : Pool) (mode index : Int32) : Outcome × Pool :=
  match pool.lock? index with
  | none => (.outOfRange, pool)
  | some lock =>
    if acquires mode then
      if pool.held lock then (.waiting, pool) else (.taken, pool.set lock true)
    else if pool.held lock then (.released, pool.set lock false)
    else (.notHeld, pool)

def applyAll (pool : Pool) : List (Int32 × Int32) → List Outcome × Pool
  | [] => ([], pool)
  | (mode, index) :: calls =>
    let (outcome, pool) := pool.apply mode index
    let (outcomes, pool) := pool.applyAll calls
    (outcome :: outcomes, pool)

@[simp] theorem size_set (pool : Pool) (lock : Fin pool.size) (held : Bool) :
    (pool.set lock held).size = pool.size := rfl

theorem size_apply (pool : Pool) (mode index : Int32) :
    (pool.apply mode index).2.size = pool.size := by
  unfold apply
  split
  · rfl
  · repeat' split
    all_goals rfl

end Pool

end CryptoProvider.Locking
