import CryptoProvider.Locking.Contention

/-!
Who holds the locks of a pool for which threads contend. The calls on the pool say it: the thread
that took a lock last, unless it was given back since. The pool and the threads agree with them.
-/

set_option autoImplicit false

namespace CryptoProvider.Locking

/-- Whether a pool of this size has the lock that an index names. -/
def inPool (size : Nat) (index : Int32) : Bool :=
  decide (0 ≤ index.toInt ∧ index.toInt < size)

theorem ne_of_beyond {size : Nat} {index other : Int32} (beyond : inPool size index = false)
    (named : inPool size other = true) : index ≠ other := by
  intro same
  rw [same, named] at beyond
  cases beyond

namespace Pool

variable {pool : Pool} {mode index : Int32}

def isHeld (pool : Pool) (index : Int32) : Bool :=
  (pool.lock? index).any pool.held

/-- Only locks that can be named are held. -/
def Named (pool : Pool) : Prop :=
  ∀ lock, pool.held lock = true → ∃ index, pool.lock? index = some lock

theorem lock?_of_beyond (beyond : inPool pool.size index = false) : pool.lock? index = none := by
  simp only [inPool, decide_eq_false_iff_not] at beyond
  simp only [lock?, dite_eq_right_iff]
  intro bound
  omega

theorem lock?_of_named (named : inPool pool.size index = true) :
    ∃ lock, pool.lock? index = some lock := by
  simp only [inPool, decide_eq_true_eq] at named
  have bound : 0 ≤ index.toInt ∧ index.toInt.toNat < pool.size := by omega
  exact ⟨_, dif_pos bound⟩

theorem toInt_of_lock? {lock : Fin pool.size} (found : pool.lock? index = some lock) :
    index.toInt = lock.val := by
  simp only [lock?] at found
  split at found
  · cases found
    simp only
    omega
  · cases found

theorem lock?_injective {other : Int32} {lock : Fin pool.size}
    (first : pool.lock? index = some lock) (second : pool.lock? other = some lock) :
    index = other :=
  Int32.toInt_inj.mp ((toInt_of_lock? first).trans (toInt_of_lock? second).symm)

theorem isHeld_of_lock? {lock : Fin pool.size} (found : pool.lock? index = some lock) :
    pool.isHeld index = pool.held lock := by
  simp [isHeld, found]

/-- One lock of a pool is held or free from now on, and the others are as they were. -/
structure Marks (pool : Pool) (index : Int32) (held : Bool) (next : Pool) : Prop where
  size : next.size = pool.size
  isHeld : ∀ other, next.isHeld other = if other = index then held else pool.isHeld other
  named : pool.Named → next.Named

theorem isHeld_set {lock : Fin pool.size} (found : pool.lock? index = some lock) (held : Bool)
    (other : Int32) :
    (pool.set lock held).isHeld other = if other = index then held else pool.isHeld other := by
  change (pool.lock? other).any (fun taken => if taken = lock then held else pool.held taken) = _
  by_cases same : other = index
  · simp [same, found]
  · simp only [same, if_false, isHeld]
    cases place : pool.lock? other with
    | none => rfl
    | some taken =>
      have apart : taken ≠ lock := by
        intro equal
        exact same (lock?_injective (place.trans (congrArg some equal)) found)
      simp [apart]

theorem named_set {lock : Fin pool.size} (found : pool.lock? index = some lock) (held : Bool)
    (named : pool.Named) : (pool.set lock held).Named := by
  intro (taken : Fin pool.size) marked
  change (if taken = lock then held else pool.held taken) = true at marked
  by_cases same : taken = lock
  · exact ⟨index, found.trans (congrArg some same.symm)⟩
  · rw [if_neg same] at marked
    exact named taken marked

theorem marks_set {lock : Fin pool.size} (found : pool.lock? index = some lock) (held : Bool) :
    pool.Marks index held (pool.set lock held) where
  size := rfl
  isHeld := isHeld_set found held
  named := named_set found held

/-- What a call on a pool comes to. -/
inductive Applied (pool : Pool) (mode index : Int32) : Outcome × Pool → Prop where
  | beyond (beyond : inPool pool.size index = false) : Applied pool mode index (.outOfRange, pool)
  | waiting (named : inPool pool.size index = true) (acquires : acquires mode = true)
      (held : pool.isHeld index = true) : Applied pool mode index (.waiting, pool)
  | taken (next : Pool) (named : inPool pool.size index = true) (acquires : acquires mode = true)
      (free : pool.isHeld index = false) (marks : pool.Marks index true next) :
      Applied pool mode index (.taken, next)
  | released (next : Pool) (named : inPool pool.size index = true)
      (releases : Locking.acquires mode = false) (held : pool.isHeld index = true)
      (marks : pool.Marks index false next) : Applied pool mode index (.released, next)
  | notHeld (named : inPool pool.size index = true) (releases : Locking.acquires mode = false)
      (free : pool.isHeld index = false) : Applied pool mode index (.notHeld, pool)

theorem applied (pool : Pool) (mode index : Int32) :
    pool.Applied mode index (pool.apply mode index) := by
  cases range : inPool pool.size index with
  | false =>
    simp only [apply, lock?_of_beyond range]
    exact .beyond range
  | true =>
    obtain ⟨lock, found⟩ := lock?_of_named range
    have view := isHeld_of_lock? found
    simp only [apply, found]
    cases asks : acquires mode <;> cases held : pool.held lock <;> rw [held] at view
    · exact .notHeld range asks view
    · exact .released _ range asks view (marks_set found false)
    · exact .taken _ range asks view (marks_set found true)
    · exact .waiting range asks view

theorem named_free (size : Nat) : (free size).Named := by
  intro lock held
  cases held

theorem isHeld_free (size : Nat) (index : Int32) : (free size).isHeld index = false := by
  cases found : (free size).lock? index with
  | none => simp [isHeld, found]
  | some lock => exact (isHeld_of_lock? found).trans rfl

end Pool

/-- The thread that took a lock and has not given it back since, by the calls on the pool. -/
def owner? (index : Int32) : List PoolCall → Option Nat
  | [] => none
  | call :: earlier =>
    if call.index = index ∧ call.outcome = .taken then some call.thread
    else if call.index = index ∧ call.outcome = .released then none
    else owner? index earlier

/-- Locks are taken when they are free and given back by the thread that took them; no release
finds a lock that nobody holds. -/
def Rightful : List PoolCall → Prop
  | [] => True
  | call :: earlier =>
    (match call.outcome with
      | .outOfRange => True
      | .taken => owner? call.index earlier = none
      | .released => owner? call.index earlier = some call.thread
      | .notHeld | .waiting => False) ∧ Rightful earlier

theorem owner?_of_ne {index : Int32} {call : PoolCall} (other : call.index ≠ index)
    (earlier : List PoolCall) : owner? index (call :: earlier) = owner? index earlier := by
  simp [owner?, other]

namespace Worker

/-- Whether a thread is between its two calls of a round that names the index. -/
def holds (worker : Worker) (index : Int32) : Bool :=
  worker.phase ≠ .outside ∧ worker.rounds.head?.map Round.index = some index

@[simp] theorem holds_outside (rounds : List Round) (index : Int32) :
    holds ⟨rounds, .outside⟩ index = false := by
  simp [holds]

theorem holds_begun {phase : Phase} (begun : phase ≠ .outside) (round : Round) (rest : List Round)
    (index : Int32) : holds ⟨round :: rest, phase⟩ index = decide (round.index = index) := by
  simp [holds, begun]

end Worker

namespace Contention

def holds (workers : List Worker) (number : Nat) (index : Int32) : Bool :=
  (workers[number]?).any (·.holds index)

theorem holds_set {workers : List Worker} {number : Nat} {worker next : Worker}
    (found : workers[number]? = some worker) (other : Nat) (index : Int32) :
    holds (workers.set number next) other index =
      if other = number then next.holds index else holds workers other index := by
  have bound := (List.getElem?_eq_some_iff.mp found).1
  by_cases same : other = number
  · subst same
    simp [holds, bound]
  · simp [holds, same, List.getElem?_set_ne (Ne.symm same)]

/-- The calls on the pool, the threads and the pool agree on who holds which lock. -/
structure Custody (size : Nat) (pool : Pool) (workers : List Worker) (calls : List PoolCall) :
    Prop where
  owner : ∀ index, inPool size index = true → ∀ number,
    owner? index calls = some number ↔ holds workers number index = true
  held : ∀ index, inPool size index = true → pool.isHeld index = (owner? index calls).isSome
  rightful : Rightful calls

namespace Custody

variable {size number : Nat} {pool : Pool} {workers : List Worker} {calls : List PoolCall}
  {worker next : Worker}

theorem stay (custody : Custody size pool workers calls) (found : workers[number]? = some worker)
    (same : ∀ index, inPool size index = true → next.holds index = worker.holds index) :
    Custody size pool (workers.set number next) calls where
  owner index named other := by
    rw [custody.owner index named other, holds_set found, same index named]
    by_cases here : other = number
    · simp [here, holds, found]
    · simp [here]
  held := custody.held
  rightful := custody.rightful

theorem refuse (custody : Custody size pool workers calls) (index : Int32) :
    Custody size pool workers (⟨number, index, .outOfRange⟩ :: calls) where
  owner := by simpa [owner?] using custody.owner
  held := by simpa [owner?] using custody.held
  rightful := ⟨trivial, custody.rightful⟩

theorem owner_of_free (custody : Custody size pool workers calls) {index : Int32}
    (named : inPool size index = true) (free : pool.isHeld index = false) :
    owner? index calls = none := by
  have none := custody.held index named
  rw [free] at none
  exact Option.not_isSome_iff_eq_none.mp (by simp [← none])

theorem owner_of_holds (custody : Custody size pool workers calls) {index : Int32}
    (named : inPool size index = true) (found : workers[number]? = some worker)
    (holding : worker.holds index = true) : owner? index calls = some number :=
  (custody.owner index named number).mpr (by simp [holds, found, holding])

/-- A lock changes hands between nobody and one thread. -/
theorem hand (custody : Custody size pool workers calls) {after : Pool} {index : Int32}
    {outcome : Outcome} {held : Bool} (found : workers[number]? = some worker)
    (marks : pool.Marks index held after)
    (owner : owner? index (⟨number, index, outcome⟩ :: calls) = if held then some number else none)
    (others : ∀ thread, thread ≠ number → holds workers thread index = false)
    (holding : next.holds index = held)
    (same : ∀ other, other ≠ index → next.holds other = worker.holds other)
    (rightful : Rightful (⟨number, index, outcome⟩ :: calls)) :
    Custody size after (workers.set number next) (⟨number, index, outcome⟩ :: calls) := by
  constructor
  · intro other inside thread
    rw [holds_set found]
    by_cases here : other = index
    · subst here
      rw [owner]
      by_cases self : thread = number
      · cases held <;> simp [self, holding]
      · cases held <;> simp [self, Ne.symm self, others thread self]
    · rw [owner?_of_ne (Ne.symm here), custody.owner other inside thread, same other here]
      by_cases self : thread = number
      · simp [self, holds, found]
      · simp [self]
  · intro other inside
    rw [marks.isHeld other]
    by_cases here : other = index
    · subst here
      rw [owner]
      cases held <;> simp
    · rw [owner?_of_ne (Ne.symm here), if_neg here, custody.held other inside]
  · exact rightful

theorem take (custody : Custody size pool workers calls) {taken : Pool} {index : Int32}
    (found : workers[number]? = some worker) (named : inPool size index = true)
    (free : pool.isHeld index = false) (marks : pool.Marks index true taken)
    (holding : next.holds index = true)
    (same : ∀ other, other ≠ index → next.holds other = worker.holds other) :
    Custody size taken (workers.set number next) (⟨number, index, .taken⟩ :: calls) := by
  have vacant := custody.owner_of_free named free
  have others : ∀ thread, thread ≠ number → holds workers thread index = false := by
    intro thread _
    have held := custody.owner index named thread
    rw [vacant] at held
    simpa using held
  exact custody.hand found marks (by simp [owner?]) others holding same ⟨vacant, custody.rightful⟩

theorem give (custody : Custody size pool workers calls) {given : Pool} {index : Int32}
    (found : workers[number]? = some worker) (named : inPool size index = true)
    (marks : pool.Marks index false given) (held : worker.holds index = true)
    (done : next.holds index = false)
    (same : ∀ other, other ≠ index → next.holds other = worker.holds other) :
    Custody size given (workers.set number next) (⟨number, index, .released⟩ :: calls) := by
  have own := custody.owner_of_holds named found held
  have others : ∀ thread, thread ≠ number → holds workers thread index = false := by
    intro thread apart
    have holding := custody.owner index named thread
    rw [own] at holding
    simpa [Ne.symm apart] using holding
  exact custody.hand found marks (by simp [owner?]) others done same ⟨own, custody.rightful⟩

end Custody

end Contention

end CryptoProvider.Locking
