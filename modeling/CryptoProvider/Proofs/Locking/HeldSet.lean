import CryptoProvider.Locking.Bridge
import CryptoProvider.Proofs.Locking.Custody
import CryptoProvider.Proofs.Memory
import Mathlib.Data.Finset.Image
import Mathlib.Data.Fintype.Basic

/-!
What a pool of locks means to callers that come one after another. A pool is the set of the indices
it holds: as long as nobody asks for a lock that is held, every call answers as the set says and
changes it as a set is changed. Calls on different locks commute, and the bridge's callback does to
the published pool just what a call on that pool does.
-/

set_option autoImplicit false

namespace CryptoProvider.Locking

/-- What a call that returns gives its caller, and what it tells the operator. -/
structure Reply where
  applied : Bool
  notices : List Notice
  deriving DecidableEq, Repr

/-- The reply to a call; none as long as the caller waits. -/
def Outcome.reply? (index : Int32) : Outcome → Option Reply
  | waiting => none
  | outcome => some ⟨outcome.applied, (outcome.notice? index).toList⟩

/-! ### The set of the indices held -/

namespace HeldSet

/-- A call on a set of held indices below a size: an odd mode adds the index that it names, and any
other takes it out. -/
def call (size : Nat) (held : Finset Int) (mode index : Int) : Reply × Finset Int :=
  if index < 0 ∨ size ≤ index then (⟨false, []⟩, held)
  else if mode % 2 = 1 then (⟨true, []⟩, insert index held)
  else if index ∈ held then (⟨true, []⟩, held.erase index)
  else (⟨true, [.unheldLock index]⟩, held)

def run (size : Nat) (held : Finset Int) : List (Int32 × Int32) → List Reply × Finset Int
  | [] => ([], held)
  | (mode, index) :: calls =>
    let (reply, held) := call size held mode.toInt index.toInt
    let (replies, held) := run size held calls
    (reply :: replies, held)

/-- No call that takes a lock names one that is held. -/
def Admissible (size : Nat) (held : Finset Int) : List (Int32 × Int32) → Prop
  | [] => True
  | (mode, index) :: calls =>
    (mode.toInt % 2 = 1 → index.toInt ∉ held) ∧
      Admissible size (call size held mode.toInt index.toInt).2 calls

instance decidableAdmissible (size : Nat) (held : Finset Int) (calls : List (Int32 × Int32)) :
    Decidable (Admissible size held calls) :=
  match calls with
  | [] => inferInstanceAs (Decidable True)
  | (mode, index) :: calls =>
    have := decidableAdmissible size (call size held mode.toInt index.toInt).2 calls
    inferInstanceAs (Decidable (_ ∧ _))

variable {size : Nat} {held : Finset Int} {mode index : Int}

/-- After a call the index that it named is held if the mode is odd, and the others are as before. -/
theorem mem_call {other : Int} :
    other ∈ (call size held mode index).2 ↔
      if other = index ∧ 0 ≤ index ∧ index < size then mode % 2 = 1 else other ∈ held := by
  unfold call
  by_cases beyond : index < 0 ∨ size ≤ index
  · have unnamed : ¬(other = index ∧ 0 ≤ index ∧ index < size) := by omega
    simp [beyond, unnamed]
  · have named : 0 ≤ index ∧ index < size := by omega
    by_cases takes : mode % 2 = 1
    · by_cases same : other = index <;> simp [beyond, named, takes, same]
    · by_cases held : index ∈ held
      · by_cases same : other = index <;> simp [beyond, named, takes, held, same]
      · by_cases same : other = index <;> simp [beyond, named, takes, held, same]

theorem level_of_mem_call {notice : Notice}
    (told : notice ∈ (call size held mode index).1.notices) : notice.level = .warn := by
  revert told
  unfold call
  split_ifs <;> simp
  rintro rfl
  rfl

theorem level_of_mem_run {calls : List (Int32 × Int32)} {reply : Reply} {notice : Notice}
    (given : reply ∈ (run size held calls).1) (told : notice ∈ reply.notices) :
    notice.level = .warn := by
  induction calls generalizing held with
  | nil => cases given
  | cons call calls ih =>
    rcases List.mem_cons.mp given with rfl | later
    · exact level_of_mem_call told
    · exact ih later

theorem call_comm {first second : Int} (apart : first ≠ second) (firstMode secondMode : Int) :
    (call size (call size held firstMode first).2 secondMode second).2 =
      (call size (call size held secondMode second).2 firstMode first).2 := by
  ext other
  simp only [mem_call]
  by_cases same : other = first
  · simp [same, apart]
  · simp [same]

end HeldSet

/-- A mode takes the lock if it is odd, whatever its other bits and its sign are. -/
theorem acquires_iff (mode : Int32) : acquires mode = true ↔ mode.toInt % 2 = 1 := by
  have low : (mode &&& acquireBit).toBitVec.toNat = mode.toBitVec.toNat % 2 :=
    Nat.and_one_is_mod _
  have zero : mode &&& acquireBit = 0 ↔ (mode &&& acquireBit).toBitVec.toNat = 0 := by
    rw [← Int32.toBitVec_inj, BitVec.toNat_inj.symm]
    rfl
  have word : mode.toInt = _ := BitVec.toInt_eq_toNat_cond mode.toBitVec
  rw [acquires, decide_eq_true_iff, ne_eq, zero, low, word]
  split <;> omega

namespace Pool

variable {pool : Pool} {mode index : Int32}

/-- The indices of the locks that a pool holds. -/
def heldSet (pool : Pool) : Finset Int :=
  ({lock | pool.held lock = true} : Finset (Fin pool.size)).image fun lock => (lock.val : Int)

theorem mem_heldSet {place : Int} :
    place ∈ pool.heldSet ↔ ∃ lock, pool.held lock = true ∧ (lock.val : Int) = place := by
  simp [heldSet]

@[simp] theorem val_mem_heldSet (lock : Fin pool.size) :
    (lock.val : Int) ∈ pool.heldSet ↔ pool.held lock = true := by
  simp only [mem_heldSet, Int.natCast_inj, Fin.val_inj, exists_eq_right]

@[simp] theorem heldSet_free (size : Nat) : (free size).heldSet = ∅ := by
  ext place
  simp [mem_heldSet, free]

theorem empty_of_reserve {ω : Type} [Memory ω] {size : Nat} {s : Platform ω}
    (reserved : (reserve size s).1 = .ok pool) : pool.size = size ∧ pool.heldSet = ∅ := by
  change (if _ then Except.ok (free size) else _) = _ at reserved
  split at reserved
  · cases reserved
    exact ⟨rfl, heldSet_free size⟩
  · cases reserved

/-- A pool is nothing but its size and the set of the indices it holds. -/
theorem eq_iff_heldSet {first second : Pool} :
    first = second ↔ first.size = second.size ∧ first.heldSet = second.heldSet := by
  constructor
  · rintro rfl
    exact ⟨rfl, rfl⟩
  · obtain ⟨size, held⟩ := first
    obtain ⟨other, marked⟩ := second
    rintro ⟨same, sets⟩
    dsimp only at same
    subst same
    congr 1
    funext lock
    have members := Finset.ext_iff.mp sets lock.val
    have mine := @val_mem_heldSet ⟨size, held⟩ lock
    have yours := @val_mem_heldSet ⟨size, marked⟩ lock
    exact Bool.eq_iff_iff.mpr (mine.symm.trans (members.trans yours))

theorem mem_heldSet_set (lock : Fin pool.size) (held : Bool) {place : Int} :
    place ∈ (pool.set lock held).heldSet ↔
      if place = lock.val then held = true else place ∈ pool.heldSet := by
  change place ∈ (Pool.mk pool.size fun other =>
    if other = lock then held else pool.held other).heldSet ↔ _
  rw [mem_heldSet]
  dsimp only
  by_cases here : place = lock.val
  · subst here
    simp only [Int.natCast_inj, Fin.val_inj, exists_eq_right, if_true]
  · simp only [here, if_false, mem_heldSet]
    refine exists_congr fun other => and_congr_left fun same => ?_
    have apart : other ≠ lock := by
      rintro rfl
      exact here same.symm
    simp [apart]

/-! ### Calls on a pool as calls on its set -/

theorem lock?_eq_none_iff :
    pool.lock? index = none ↔ index.toInt < 0 ∨ pool.size ≤ index.toInt := by
  simp only [lock?, dite_eq_right_iff, reduceCtorEq, imp_false]
  omega

theorem named_of_lock? {lock : Fin pool.size} (found : pool.lock? index = some lock) :
    ¬(index.toInt < 0 ∨ pool.size ≤ index.toInt) := by
  rw [← lock?_eq_none_iff, found]
  exact Option.some_ne_none lock

theorem held_iff {lock : Fin pool.size} (found : pool.lock? index = some lock) :
    pool.held lock = true ↔ index.toInt ∈ pool.heldSet := by
  rw [toInt_of_lock? found, val_mem_heldSet]

/-- A call changes the set of the indices held as a call on that set does. -/
theorem heldSet_apply (pool : Pool) (mode index : Int32) :
    (pool.apply mode index).2.heldSet =
      (HeldSet.call pool.size pool.heldSet mode.toInt index.toInt).2 := by
  ext place
  rw [HeldSet.mem_call]
  unfold apply
  cases found : pool.lock? index with
  | none =>
    have beyond := lock?_eq_none_iff.mp found
    have unnamed : ¬(place = index.toInt ∧ 0 ≤ index.toInt ∧ index.toInt < pool.size) := by omega
    simp only [unnamed, if_false]
  | some lock =>
    have named := named_of_lock? found
    have inside : (place = index.toInt ∧ 0 ≤ index.toInt ∧ index.toInt < pool.size) ↔
        place = index.toInt := by omega
    have member := held_iff found
    have number := toInt_of_lock? found
    simp only [inside, ← acquires_iff]
    cases takes : acquires mode <;> cases held : pool.held lock <;> rw [held] at member
    all_goals by_cases here : place = index.toInt <;>
      simp [mem_heldSet_set, ← number, here, ← member]

/-- What comes of a call depends on the size and on the lock that it names alone. -/
theorem outcome_apply (pool : Pool) (mode index : Int32) :
    (pool.apply mode index).1 =
      if index.toInt < 0 ∨ pool.size ≤ index.toInt then .outOfRange
      else if mode.toInt % 2 = 1 then if index.toInt ∈ pool.heldSet then .waiting else .taken
      else if index.toInt ∈ pool.heldSet then .released
      else .notHeld := by
  unfold apply
  cases found : pool.lock? index with
  | none => simp only [lock?_eq_none_iff.mp found, if_true]
  | some lock =>
    simp only [named_of_lock? found, if_false, ← held_iff found, ← acquires_iff]
    split <;> split <;> rfl

theorem reply_apply (free : mode.toInt % 2 = 1 → index.toInt ∉ pool.heldSet) :
    (pool.apply mode index).1.reply? index =
      some (HeldSet.call pool.size pool.heldSet mode.toInt index.toInt).1 := by
  rw [outcome_apply, HeldSet.call]
  by_cases beyond : index.toInt < 0 ∨ pool.size ≤ index.toInt
  · simp only [beyond, if_true]
    rfl
  · by_cases takes : mode.toInt % 2 = 1
    · simp only [beyond, takes, free takes, if_true, if_false]
      rfl
    · by_cases held : index.toInt ∈ pool.heldSet
      · simp only [beyond, takes, held, if_true, if_false]
        rfl
      · simp only [beyond, takes, held, if_false]
        rfl

theorem applied_eq_false_iff :
    (pool.apply mode index).1.applied = false ↔ index.toInt < 0 ∨ pool.size ≤ index.toInt := by
  rw [outcome_apply]
  split_ifs <;> simp_all [Outcome.applied]

theorem apply_of_beyond (beyond : index.toInt < 0 ∨ pool.size ≤ index.toInt) :
    pool.apply mode index = (.outOfRange, pool) := by
  simp only [apply, lock?_eq_none_iff.mpr beyond]

/-- A call does not reach another lock: what comes of a call on that one is as before. -/
theorem outcome_apply_of_ne {other : Int32} (apart : other ≠ index) (otherMode : Int32) :
    ((pool.apply mode index).2.apply otherMode other).1 = (pool.apply otherMode other).1 := by
  have place : other.toInt ≠ index.toInt := fun same => apart (Int32.toInt_inj.mp same)
  rw [outcome_apply, outcome_apply, size_apply, heldSet_apply]
  simp only [HeldSet.mem_call, place, false_and, if_false]

/-- Calls on different locks change the pool in the same way in either order. -/
theorem apply_comm {first second : Int32} (apart : first ≠ second) (firstMode secondMode : Int32) :
    ((pool.apply firstMode first).2.apply secondMode second).2 =
      ((pool.apply secondMode second).2.apply firstMode first).2 := by
  have place : first.toInt ≠ second.toInt := fun same => apart (Int32.toInt_inj.mp same)
  rw [eq_iff_heldSet]
  constructor
  · simp only [size_apply]
  · simp only [heldSet_apply, size_apply]
    exact HeldSet.call_comm place firstMode.toInt secondMode.toInt

/-! ### Sequences of calls -/

/-- The replies to calls, by what came of them. -/
def replies (calls : List (Int32 × Int32)) (outcomes : List Outcome) : List (Option Reply) :=
  List.zipWith (fun call outcome => outcome.reply? call.2) calls outcomes

theorem size_applyAll (pool : Pool) (calls : List (Int32 × Int32)) :
    (pool.applyAll calls).2.size = pool.size := by
  induction calls generalizing pool with
  | nil => rfl
  | cons call calls ih => exact (ih _).trans (size_apply pool call.1 call.2)

theorem applyAll_refines {calls : List (Int32 × Int32)}
    (admissible : HeldSet.Admissible pool.size pool.heldSet calls) :
    replies calls (pool.applyAll calls).1 =
        (HeldSet.run pool.size pool.heldSet calls).1.map some ∧
      (pool.applyAll calls).2.heldSet = (HeldSet.run pool.size pool.heldSet calls).2 := by
  induction calls generalizing pool with
  | nil => exact ⟨rfl, rfl⟩
  | cons call calls ih =>
    obtain ⟨mode, index⟩ := call
    obtain ⟨free, later⟩ := admissible
    have size := size_apply pool mode index
    have held := heldSet_apply pool mode index
    rw [← held, ← size] at later
    obtain ⟨replied, left⟩ := ih later
    rw [size, held] at replied left
    exact ⟨congrArg₂ List.cons (reply_apply free) replied, left⟩

end Pool

/-! ### The callback -/

variable {ω : Type}

/-- What a callback tells the operator: what the pool tells, and where an index that the pool does
not have came from. -/
def callbackNotices (size : Nat) (index : Int32) (file : Option Bytes) (line : Int32)
    (outcome : Outcome) : List Notice :=
  if outcome.applied then (outcome.notice? index).toList
  else [.lockOutOfRange size index.toInt ((file.map Text.ofTerminated).getD "<unknown>") line.toInt]

theorem level_callbackNotices {size : Nat} {index : Int32} {file : Option Bytes} {line : Int32}
    {outcome : Outcome} {notice : Notice}
    (told : notice ∈ callbackNotices size index file line outcome) :
    notice.level = if outcome.applied then .warn else .error := by
  cases outcome <;> simp_all [callbackNotices, Outcome.applied, Outcome.notice?, Notice.level]

/-- The bridge's callback does to the published pool what a call on that pool does, and nothing
else but to tell the operator. -/
theorem call_of_published {s : Platform ω} {published : Published}
    (found : s.pool = some published) (mode index : Int32) (file : Option Bytes) (line : Int32) :
    Callback.bridge.call mode index file line s =
      ((), { s with
        pool := some { published with pool := (published.pool.apply mode index).2 }
        trace := (callbackNotices published.pool.size index file line
          (published.pool.apply mode index).1).map .notice ++ s.trace }) := by
  simp only [Callback.call, serve, bind, StateT.bind, get, getThe, MonadStateOf.get, StateT.get,
    pure, found]
  cases published.pool.apply mode index with
  | mk outcome pool => cases outcome <;> rfl

theorem call_of_unpublished {s : Platform ω} (empty : s.pool = none) (mode index : Int32)
    (file : Option Bytes) (line : Int32) :
    Callback.bridge.call mode index file line s =
      ((), { s with trace := .notice .noLockPool :: s.trace }) := by
  have noted : Callback.bridge.call mode index file line s = Platform.note .noLockPool s := by
    simp only [Callback.call, serve, bind, StateT.bind, get, getThe, MonadStateOf.get, StateT.get,
      pure, empty]
  exact noted

/-- A pool of any size refines the set of the indices it holds, which together with the size is all
that there is to it. In every sequence of calls in which none takes a lock that is held, each call
returns with the reply that the set gives and changes the pool as it changes the set; a reply tells
the operator warnings only. A call is refused, and changes nothing, exactly if there is no such lock.
Calls on different locks come to the same in either order, and leave the same pool.

The bridge's callback does to the published pool what a call on it does, and changes nothing else;
it tells the operator what the call does, or of one error if the call is refused. Without a published
pool it does nothing but to tell of one error. -/
theorem held_set_semantics [Memory ω] :
    (∀ (size : Nat) (pool : Pool) (s : Platform ω), (Pool.reserve size s).1 = .ok pool →
      pool.size = size ∧ pool.heldSet = ∅) ∧
    (∀ first second : Pool,
      first = second ↔ first.size = second.size ∧ first.heldSet = second.heldSet) ∧
    (∀ (pool : Pool) (calls : List (Int32 × Int32)),
      (pool.applyAll calls).2.size = pool.size ∧
      (HeldSet.Admissible pool.size pool.heldSet calls →
        Pool.replies calls (pool.applyAll calls).1 =
            (HeldSet.run pool.size pool.heldSet calls).1.map some ∧
          (pool.applyAll calls).2.heldSet = (HeldSet.run pool.size pool.heldSet calls).2) ∧
      ∀ reply ∈ (HeldSet.run pool.size pool.heldSet calls).1, ∀ notice ∈ reply.notices,
        notice.level = .warn) ∧
    (∀ (pool : Pool) (mode index : Int32),
      ((pool.apply mode index).1.applied = false ↔ index.toInt < 0 ∨ pool.size ≤ index.toInt) ∧
      ((pool.apply mode index).1.applied = false → (pool.apply mode index).2 = pool)) ∧
    (∀ (pool : Pool) (first second firstMode secondMode : Int32), first ≠ second →
      ((pool.apply secondMode second).2.apply firstMode first).1 = (pool.apply firstMode first).1 ∧
      ((pool.apply firstMode first).2.apply secondMode second).1 =
        (pool.apply secondMode second).1 ∧
      ((pool.apply firstMode first).2.apply secondMode second).2 =
        ((pool.apply secondMode second).2.apply firstMode first).2) ∧
    (∀ (s : Platform ω) (mode index : Int32) (file : Option Bytes) (line : Int32),
      (∀ published, s.pool = some published →
        let (outcome, pool) := published.pool.apply mode index
        let notices := callbackNotices pool.size index file line outcome
        Callback.bridge.call mode index file line s =
            ((), { s with
              pool := some { published with pool }
              trace := notices.map .notice ++ s.trace }) ∧
          ∀ notice ∈ notices, notice.level = if outcome.applied then .warn else .error) ∧
      (s.pool = none →
        Callback.bridge.call mode index file line s =
            ((), { s with trace := .notice .noLockPool :: s.trace }) ∧
          Notice.noLockPool.level = .error)) := by
  refine ⟨fun _ _ _ => Pool.empty_of_reserve, fun _ _ => Pool.eq_iff_heldSet, ?sequence, ?refused,
    ?apart, ?callback⟩
  case sequence =>
    intro pool calls
    exact ⟨pool.size_applyAll calls, Pool.applyAll_refines,
      fun _ given _ told => HeldSet.level_of_mem_run given told⟩
  case refused =>
    intro pool mode index
    refine ⟨Pool.applied_eq_false_iff, fun refused => ?_⟩
    rw [Pool.apply_of_beyond (Pool.applied_eq_false_iff.mp refused)]
  case apart =>
    intro pool first second firstMode secondMode apart
    exact ⟨Pool.outcome_apply_of_ne apart firstMode, Pool.outcome_apply_of_ne apart.symm secondMode,
      Pool.apply_comm apart firstMode secondMode⟩
  case callback =>
    intro s mode index file line
    constructor
    · intro published found
      have size := Pool.size_apply published.pool mode index
      have called := call_of_published found mode index file line
      rw [← size] at called
      exact ⟨called, fun _ => level_callbackNotices⟩
    · intro empty
      exact ⟨call_of_unpublished empty mode index file line, rfl⟩

-- Modes with and without other bits, of both signs, on a pool of four; and a lock beyond it.
theorem held_set_semantics_four :
    let calls := [(1, 0), (-1, 3), (10, 0), (-2, 0), (1, 4), (9, -1), (8, 2)]
    let s : Platform Unit := { Platform.clean () with pool := some ⟨0, .free 4⟩ }
    HeldSet.Admissible 4 ∅ calls ∧
      Pool.replies calls ((Pool.free 4).applyAll calls).1 =
        [some ⟨true, []⟩, some ⟨true, []⟩, some ⟨true, []⟩, some ⟨true, [.unheldLock 0]⟩,
          some ⟨false, []⟩, some ⟨false, []⟩, some ⟨true, [.unheldLock 2]⟩] ∧
      ((Pool.free 4).applyAll calls).2.heldSet = {3} ∧
      Callback.bridge.call 1 7 none 12 s =
        ((), { s with trace := [.notice (.lockOutOfRange 4 7 "<unknown>" 12)] }) := by
  intro calls s
  obtain ⟨empty, -, sequence, -, -, callback⟩ := held_set_semantics (ω := Unit)
  obtain ⟨-, refines, -⟩ := sequence (Pool.free 4) calls
  rw [(empty 4 (Pool.free 4) s rfl).2] at refines
  have admissible : HeldSet.Admissible 4 ∅ calls := by decide
  obtain ⟨replied, left⟩ := refines admissible
  have called := ((callback s 1 7 none 12).1 _ rfl).1
  exact ⟨admissible, replied.trans (by decide), left.trans (by decide), called⟩

end CryptoProvider.Locking
