import CryptoProvider.Proofs.Locking.Custody

/-!
Threads that contend for the locks of a pool exclude each other. A thread between its two calls of a
round holds the lock that it named, so no two are in one section, every release finds the lock of
its own thread, somebody can always go on, and in the end all have finished.
-/

set_option autoImplicit false

namespace CryptoProvider.Locking

/-- A round that takes its lock and then gives it back. -/
structure Round.Paired (round : Round) : Prop where
  acquires : Locking.acquires round.acquire = true
  releases : Locking.acquires round.release = false

instance (round : Round) : Decidable round.Paired :=
  decidable_of_iff (acquires round.acquire = true ∧ acquires round.release = false)
    ⟨fun ⟨takes, gives⟩ => ⟨takes, gives⟩, fun ⟨takes, gives⟩ => ⟨takes, gives⟩⟩

namespace Worker

/-- How many sections of a pool of this size a thread has still to enter. -/
def ahead (size : Nat) (worker : Worker) : Nat :=
  match worker.phase with
  | .outside | .admitted => worker.rounds.countP (inPool size ·.index)
  | .inside | .leaving => worker.rounds.tail.countP (inPool size ·.index)

/-- How many steps a thread has still to take. -/
def remaining (worker : Worker) : Nat :=
  match worker.phase with
  | .outside => 4 * worker.rounds.length
  | .admitted => 4 * worker.rounds.length - 1
  | .inside => 4 * worker.rounds.length - 2
  | .leaving => 4 * worker.rounds.length - 3

/-- A thread in a round has one, and is at its section only if there is such a lock. -/
structure Orderly (size : Nat) (worker : Worker) : Prop where
  paired : ∀ round ∈ worker.rounds, round.Paired
  begun : worker.phase ≠ .outside → worker.rounds ≠ []
  named : worker.phase = .admitted ∨ worker.phase = .inside →
    ∀ round ∈ worker.rounds.head?, inPool size round.index = true

theorem isInside_iff {worker : Worker} {index : Int32} :
    worker.isInside index = true ↔
      worker.phase = .inside ∧ worker.rounds.head?.map Round.index = some index := by
  obtain ⟨rounds, phase⟩ := worker
  cases rounds <;> cases phase <;> simp [isInside]

theorem holds_of_inside {worker : Worker} {index : Int32} (inside : worker.isInside index = true) :
    worker.holds index = true := by
  obtain ⟨phase, head⟩ := isInside_iff.mp inside
  simp [holds, phase, head]

end Worker

/-- A quantity of a thread, over all threads. -/
def sumOver (weight : Worker → Nat) : List Worker → Nat
  | [] => 0
  | worker :: others => weight worker + sumOver weight others

theorem sumOver_set {workers : List Worker} {number : Nat} {worker : Worker} (next : Worker)
    (found : workers[number]? = some worker) (weight : Worker → Nat) :
    sumOver weight (workers.set number next) + weight worker =
      sumOver weight workers + weight next := by
  induction workers generalizing number with
  | nil => simp at found
  | cons first others ih =>
    cases number with
    | zero =>
      simp only [List.getElem?_cons_zero, Option.some.injEq] at found
      subst found
      simp only [List.set_cons_zero, sumOver]
      omega
    | succ number =>
      have later := ih (by simpa using found)
      simp only [List.set_cons_succ, sumOver]
      omega

theorem sumOver_eq_zero {weight : Worker → Nat} {workers : List Worker}
    (none : ∀ worker ∈ workers, weight worker = 0) : sumOver weight workers = 0 := by
  induction workers with
  | nil => rfl
  | cons worker others ih =>
    obtain ⟨here, there⟩ := List.forall_mem_cons.mp none
    rw [sumOver, here, ih there]

namespace Contention

/-- Whether a thread is in the section of an index. -/
def isInside (s : Contention) (number : Nat) (index : Int32) : Bool :=
  (s.workers[number]?).any (·.isInside index)

/-- The ways in which a thread goes on. -/
inductive Moves (size number : Nat) (s : Contention) : Contention → Prop where
  | refused {round : Round} {rest : List Round}
      (found : s.workers[number]? = some ⟨round :: rest, .outside⟩)
      (beyond : inPool size round.index = false) :
      Moves size number s { s with
        workers := s.workers.set number ⟨round :: rest, .leaving⟩
        calls := ⟨number, round.index, .outOfRange⟩ :: s.calls }
  | takes {round : Round} {rest : List Round} {pool : Pool}
      (found : s.workers[number]? = some ⟨round :: rest, .outside⟩)
      (named : inPool size round.index = true) (free : s.pool.isHeld round.index = false)
      (marks : s.pool.Marks round.index true pool) :
      Moves size number s { s with
        pool
        workers := s.workers.set number ⟨round :: rest, .admitted⟩
        calls := ⟨number, round.index, .taken⟩ :: s.calls }
  | enters {round : Round} {rest : List Round}
      (found : s.workers[number]? = some ⟨round :: rest, .admitted⟩) :
      Moves size number s { s with
        workers := s.workers.set number ⟨round :: rest, .inside⟩
        entries := s.entries + 1
        clashes := s.clashes + if s.workers.any (·.isInside round.index) then 1 else 0 }
  | leaves {round : Round} {rest : List Round}
      (found : s.workers[number]? = some ⟨round :: rest, .inside⟩) :
      Moves size number s { s with workers := s.workers.set number ⟨round :: rest, .leaving⟩ }
  | passes {round : Round} {rest : List Round}
      (found : s.workers[number]? = some ⟨round :: rest, .leaving⟩)
      (beyond : inPool size round.index = false) :
      Moves size number s { s with
        workers := s.workers.set number ⟨rest, .outside⟩
        calls := ⟨number, round.index, .outOfRange⟩ :: s.calls }
  | releases {round : Round} {rest : List Round} {pool : Pool}
      (found : s.workers[number]? = some ⟨round :: rest, .leaving⟩)
      (named : inPool size round.index = true)
      (marks : s.pool.Marks round.index false pool) :
      Moves size number s { s with
        pool
        workers := s.workers.set number ⟨rest, .outside⟩
        calls := ⟨number, round.index, .released⟩ :: s.calls }

/-- What every run keeps: `total` sections are entered or still to be entered, and no two threads
were in one. -/
structure Excluding (size total : Nat) (s : Contention) : Prop where
  fixed : s.pool.size = size
  named : s.pool.Named
  orderly : ∀ worker ∈ s.workers, worker.Orderly size
  custody : Custody size s.pool s.workers s.calls
  counted : s.entries + sumOver (Worker.ahead size) s.workers = total
  clashes : s.clashes = 0

theorem excluding_start (size : Nat) (plans : List (List Round))
    (paired : ∀ plan ∈ plans, ∀ round ∈ plan, round.Paired) :
    Excluding size (plans.flatten.countP (inPool size ·.index)) (start size plans) where
  fixed := rfl
  named := Pool.named_free size
  orderly := by
    intro worker mine
    obtain ⟨plan, planned, rfl⟩ := List.mem_map.mp mine
    exact ⟨paired plan planned, by simp, by simp⟩
  custody := by
    refine ⟨?_, ?_, trivial⟩
    · intro index _ number
      simp only [start, owner?, holds, List.getElem?_map]
      cases plans[number]? <;> simp [Worker.holds]
    · intro index _
      simp [start, Pool.isHeld_free, owner?]
  counted := by
    rw [start, Nat.zero_add]
    clear paired
    induction plans with
    | nil => rfl
    | cons plan plans ih =>
      rw [List.map_cons, sumOver, ih, List.flatten_cons, List.countP_append]
      rfl
  clashes := rfl

theorem call?_eq_some {number : Nat} {mode index : Int32} {next : Outcome → Worker}
    {s t : Contention} (going : call? number mode index next s = some t) :
    ∃ outcome pool, s.pool.Applied mode index (outcome, pool) ∧ outcome ≠ .waiting ∧
      t = { s with
        pool
        workers := s.workers.set number (next outcome)
        calls := ⟨number, index, outcome⟩ :: s.calls } := by
  have applied := s.pool.applied mode index
  unfold call? at going
  generalize s.pool.apply mode index = result at applied going
  obtain ⟨outcome, pool⟩ := result
  by_cases waits : outcome = .waiting
  · simp [waits] at going
  · simp only [waits, if_false, Option.some.injEq] at going
    exact ⟨outcome, pool, applied, waits, going.symm⟩

section Steps

variable {number : Nat} {round : Round} {rest : List Round} {s : Contention}

theorem step?_outside (found : s.workers[number]? = some ⟨round :: rest, .outside⟩) :
    step? number s = s.call? number round.acquire round.index fun outcome =>
      ⟨round :: rest, if outcome.applied then .admitted else .leaving⟩ := by
  simp [step?, found]

theorem step?_admitted (found : s.workers[number]? = some ⟨round :: rest, .admitted⟩) :
    step? number s = some { s with
      workers := s.workers.set number ⟨round :: rest, .inside⟩
      entries := s.entries + 1
      clashes := s.clashes + if s.workers.any (·.isInside round.index) then 1 else 0 } := by
  simp [step?, found]

theorem step?_inside (found : s.workers[number]? = some ⟨round :: rest, .inside⟩) :
    step? number s = some { s with workers := s.workers.set number ⟨round :: rest, .leaving⟩ } := by
  simp [step?, found]

theorem step?_leaving (found : s.workers[number]? = some ⟨round :: rest, .leaving⟩) :
    step? number s =
      s.call? number round.release round.index fun _ => ⟨rest, .outside⟩ := by
  simp [step?, found, Worker.advance]

end Steps

/-- Only a call that takes a held lock waits. -/
theorem call?_eq_none {number : Nat} {mode index : Int32} {next : Outcome → Worker}
    {s : Contention} (waits : call? number mode index next s = none) :
    acquires mode = true ∧ inPool s.pool.size index = true ∧ s.pool.isHeld index = true := by
  have applied := s.pool.applied mode index
  unfold call? at waits
  generalize s.pool.apply mode index = result at applied waits
  cases applied with
  | waiting named asks held => exact ⟨asks, named, held⟩
  | beyond | taken | released | notHeld => simp at waits

namespace Excluding

variable {size total number : Nat} {s next : Contention}

theorem held_of_holds (excluding : Excluding size total s) {index : Int32} {worker : Worker}
    (named : inPool size index = true) (found : s.workers[number]? = some worker)
    (holding : worker.holds index = true) : s.pool.isHeld index = true := by
  rw [excluding.custody.held index named, excluding.custody.owner_of_holds named found holding]
  rfl

theorem moves (excluding : Excluding size total s) (going : step? number s = some next) :
    Moves size number s next := by
  have fixed := excluding.fixed
  cases found : s.workers[number]? with
  | none => simp [step?, found] at going
  | some worker =>
    have orderly := excluding.orderly worker (List.mem_of_getElem? found)
    obtain ⟨rounds, phase⟩ := worker
    cases rounds with
    | nil => simp [step?, found] at going
    | cons round rest =>
      have paired := orderly.paired round List.mem_cons_self
      cases phase with
      | outside =>
        rw [step?_outside found] at going
        obtain ⟨outcome, pool, applied, waits, rfl⟩ := call?_eq_some going
        cases applied with
        | beyond beyond => exact .refused found (fixed ▸ beyond)
        | waiting => exact absurd rfl waits
        | taken _ named _ free marks => exact .takes found (fixed ▸ named) free marks
        | released _ _ releases => exact absurd paired.acquires (by simp [releases])
        | notHeld _ releases => exact absurd paired.acquires (by simp [releases])
      | admitted =>
        rw [step?_admitted found] at going
        cases going
        exact .enters found
      | inside =>
        rw [step?_inside found] at going
        cases going
        exact .leaves found
      | leaving =>
        rw [step?_leaving found] at going
        obtain ⟨outcome, pool, applied, -, rfl⟩ := call?_eq_some going
        cases applied with
        | beyond beyond => exact .passes found (fixed ▸ beyond)
        | waiting _ acquires => exact absurd paired.releases (by simp [acquires])
        | taken _ _ acquires => exact absurd paired.releases (by simp [acquires])
        | released _ named _ _ marks => exact .releases found (fixed ▸ named) marks
        | notHeld named _ free =>
          -- The thread itself holds the lock that it gives back.
          have held := excluding.held_of_holds (fixed ▸ named) found (by simp [Worker.holds])
          simp [free] at held

/-- Nobody is in the section that a thread is admitted to. -/
theorem vacant (excluding : Excluding size total s) {round : Round} {rest : List Round}
    (found : s.workers[number]? = some ⟨round :: rest, .admitted⟩)
    (named : inPool size round.index = true) :
    s.workers.any (·.isInside round.index) = false := by
  have own := excluding.custody.owner_of_holds named found (by simp [Worker.holds])
  rw [List.any_eq_false]
  intro other mine inside
  obtain ⟨place, here⟩ := List.mem_iff_getElem?.mp mine
  have theirs := excluding.custody.owner_of_holds named here (Worker.holds_of_inside inside)
  -- Then both are the owner, and a thread is not in two phases.
  have same : number = place := Option.some.inj (own.symm.trans theirs)
  rw [same, here] at found
  cases found
  simp [Worker.isInside] at inside

theorem orderly_set (excluding : Excluding size total s) {after : Worker}
    (orderly : after.Orderly size) :
    ∀ worker ∈ s.workers.set number after, worker.Orderly size := by
  intro worker mine
  rcases List.mem_or_eq_of_mem_set mine with before | rfl
  · exact excluding.orderly worker before
  · exact orderly

theorem counted_set (excluding : Excluding size total s) {worker after : Worker} {entries : Nat}
    (found : s.workers[number]? = some worker)
    (same : entries + after.ahead size = s.entries + worker.ahead size) :
    entries + sumOver (Worker.ahead size) (s.workers.set number after) = total := by
  have exchange := sumOver_set after found (Worker.ahead size)
  have counted := excluding.counted
  omega

end Excluding

/-- A step keeps the invariant: one case for each way in which a thread goes on. -/
theorem Moves.excluding {size total number : Nat} {s next : Contention}
    (moves : Moves size number s next) (before : Excluding size total s) :
    Excluding size total next := by
  have orderly {worker : Worker} (found : s.workers[number]? = some worker) :=
    before.orderly worker (List.mem_of_getElem? found)
  cases moves with
  | @refused round rest found beyond =>
    have unheld : ∀ index, inPool size index = true →
        Worker.holds ⟨round :: rest, .leaving⟩ index =
          Worker.holds ⟨round :: rest, .outside⟩ index := by
      intro index named
      simp [Worker.holds_begun, ne_of_beyond beyond named]
    exact {
      fixed := before.fixed
      named := before.named
      orderly := before.orderly_set ⟨(orderly found).paired, by simp, by simp⟩
      custody := (before.custody.stay found unheld).refuse round.index
      counted := before.counted_set found (by simp [Worker.ahead, beyond])
      clashes := before.clashes }
  | @takes round rest pool found named free marks =>
    exact {
      fixed := marks.size.trans before.fixed
      named := marks.named before.named
      orderly := before.orderly_set ⟨(orderly found).paired, by simp, by simp [named]⟩
      custody := before.custody.take found named free marks (by simp [Worker.holds_begun])
        (fun other apart => by simp [Worker.holds_begun, Ne.symm apart])
      counted := before.counted_set found rfl
      clashes := before.clashes }
  | @enters round rest found =>
    have named := (orderly found).named (.inl rfl) round rfl
    exact {
      fixed := before.fixed
      named := before.named
      orderly := before.orderly_set ⟨(orderly found).paired, by simp, by simp [named]⟩
      custody := before.custody.stay found fun _ _ => by simp [Worker.holds_begun]
      counted := before.counted_set found (by simp [Worker.ahead, named]; omega)
      clashes := by simp [before.vacant found named, before.clashes] }
  | @leaves round rest found =>
    exact {
      fixed := before.fixed
      named := before.named
      orderly := before.orderly_set ⟨(orderly found).paired, by simp, by simp⟩
      custody := before.custody.stay found fun _ _ => by simp [Worker.holds_begun]
      counted := before.counted_set found rfl
      clashes := before.clashes }
  | @passes round rest found beyond =>
    have unheld : ∀ index, inPool size index = true →
        Worker.holds ⟨rest, .outside⟩ index = Worker.holds ⟨round :: rest, .leaving⟩ index := by
      intro index named
      simp [Worker.holds_begun, ne_of_beyond beyond named]
    exact {
      fixed := before.fixed
      named := before.named
      orderly := before.orderly_set ⟨fun later mine =>
        (orderly found).paired later (List.mem_cons_of_mem _ mine), by simp, by simp⟩
      custody := (before.custody.stay found unheld).refuse round.index
      counted := before.counted_set found rfl
      clashes := before.clashes }
  | @releases round rest pool found named marks =>
    exact {
      fixed := marks.size.trans before.fixed
      named := marks.named before.named
      orderly := before.orderly_set ⟨fun later mine =>
        (orderly found).paired later (List.mem_cons_of_mem _ mine), by simp, by simp⟩
      custody := before.custody.give found named marks (by simp [Worker.holds_begun])
        (by simp) (fun other apart => by simp [Worker.holds_begun, Ne.symm apart])
      counted := before.counted_set found rfl
      clashes := before.clashes }

/-- Lets the threads take their steps in the order of a schedule of their numbers; `none` if one of
them cannot. -/
def follow? (schedule : List Nat) (s : Contention) : Option Contention :=
  schedule.foldlM (fun s number => step? number s) s

theorem excluding_follow {size total : Nat} {schedule : List Nat} {s last : Contention}
    (before : Excluding size total s) (followed : follow? schedule s = some last) :
    Excluding size total last := by
  induction schedule generalizing s with
  | nil =>
    cases followed
    exact before
  | cons number rest ih =>
    simp only [follow?, List.foldlM_cons, Option.bind_eq_bind, Option.bind_eq_some_iff] at followed
    obtain ⟨next, going, followed⟩ := followed
    exact ih ((before.moves going).excluding before) followed

namespace Excluding

variable {size total : Nat} {s : Contention}

theorem owner_of_inside (excluding : Excluding size total s) {number : Nat} {index : Int32}
    (inside : s.isInside number index = true) : owner? index s.calls = some number := by
  obtain ⟨worker, found, inside⟩ := (Option.any_eq_true _ _).mp inside
  have orderly := excluding.orderly worker (List.mem_of_getElem? found)
  obtain ⟨phase, head⟩ := Worker.isInside_iff.mp inside
  obtain ⟨round, first, rfl⟩ := Option.map_eq_some_iff.mp head
  have named := orderly.named (.inr phase) round first
  exact excluding.custody.owner_of_holds named found (Worker.holds_of_inside inside)

theorem alone (excluding : Excluding size total s) {first second : Nat} {index : Int32}
    (one : s.isInside first index = true) (other : s.isInside second index = true) :
    first = second := by
  have owner := excluding.owner_of_inside one
  rw [excluding.owner_of_inside other] at owner
  exact (Option.some.inj owner).symm

theorem settled (excluding : Excluding size total s) (done : s.isDone = true) {worker : Worker}
    (mine : worker ∈ s.workers) : worker = ⟨[], .outside⟩ := by
  have finished : worker.isDone = true := List.all_eq_true.mp done worker mine
  have begun := (excluding.orderly worker mine).begun
  obtain ⟨rounds, phase⟩ := worker
  cases rounds with
  | nil => cases phase <;> simp at begun ⊢
  | cons => simp [Worker.isDone] at finished

theorem entries_of_done (excluding : Excluding size total s) (done : s.isDone = true) :
    s.entries = total := by
  have none : sumOver (Worker.ahead size) s.workers = 0 := by
    apply sumOver_eq_zero
    intro worker mine
    rw [excluding.settled done mine]
    rfl
  have counted := excluding.counted
  rwa [none, Nat.add_zero] at counted

theorem free_of_done (excluding : Excluding size total s) (done : s.isDone = true) :
    s.pool = .free size := by
  have unowned : ∀ index, inPool size index = true → s.pool.isHeld index = false := by
    intro index named
    rw [excluding.custody.held index named]
    cases owner : owner? index s.calls with
    | none => rfl
    | some number =>
      have held := (excluding.custody.owner index named number).mp owner
      obtain ⟨worker, found, holding⟩ := (Option.any_eq_true _ _).mp held
      rw [excluding.settled done (List.mem_of_getElem? found)] at holding
      simp at holding
  have unheld : ∀ lock, s.pool.held lock = false := by
    intro lock
    rw [Bool.eq_false_iff]
    intro held
    obtain ⟨index, found⟩ := excluding.named lock held
    have named : inPool size index = true := by
      have place := Pool.toInt_of_lock? found
      have bound := lock.isLt
      simp only [inPool, decide_eq_true_eq, ← excluding.fixed]
      omega
    have view := Pool.isHeld_of_lock? found
    rw [unowned index named, held] at view
    cases view
  obtain rfl := excluding.fixed
  exact congrArg (Pool.mk s.pool.size) (funext unheld)

/-- A thread in a round does not wait. -/
theorem goes_on (excluding : Excluding size total s) {number : Nat} {worker : Worker}
    (found : s.workers[number]? = some worker) (begun : worker.phase ≠ .outside) :
    ∃ next, step? number s = some next := by
  have orderly := excluding.orderly worker (List.mem_of_getElem? found)
  have some := orderly.begun begun
  obtain ⟨rounds, phase⟩ := worker
  cases rounds with
  | nil => contradiction
  | cons round rest =>
    cases phase with
    | outside => contradiction
    | admitted => exact ⟨_, step?_admitted found⟩
    | inside => exact ⟨_, step?_inside found⟩
    | leaving =>
      have releases := (orderly.paired round List.mem_cons_self).releases
      cases going : step? number s with
      | some next => exact ⟨next, rfl⟩
      | none =>
        rw [step?_leaving found] at going
        have asks := (call?_eq_none going).1
        simp [releases] at asks

/-- A thread waits for a lock that another one holds, and that one does not wait. -/
theorem progress (excluding : Excluding size total s) (busy : s.isDone = false) :
    ∃ number next, step? number s = some next := by
  obtain ⟨worker, mine, unfinished⟩ := List.all_eq_false.mp busy
  obtain ⟨number, found⟩ := List.mem_iff_getElem?.mp mine
  by_cases begun : worker.phase = .outside
  · cases going : step? number s with
    | some next => exact ⟨number, next, going⟩
    | none =>
      obtain ⟨rounds, phase⟩ := worker
      obtain rfl : phase = .outside := begun
      cases rounds with
      | nil => simp [Worker.isDone] at unfinished
      | cons round rest =>
        rw [step?_outside found] at going
        obtain ⟨-, named, held⟩ := call?_eq_none going
        rw [excluding.fixed] at named
        rw [excluding.custody.held _ named] at held
        obtain ⟨holder, owner⟩ := Option.isSome_iff_exists.mp held
        have holds := (excluding.custody.owner _ named holder).mp owner
        obtain ⟨other, place, holding⟩ := (Option.any_eq_true _ _).mp holds
        have inside : other.phase ≠ .outside := by
          simp only [Worker.holds, decide_eq_true_eq] at holding
          exact holding.1
        exact ⟨holder, excluding.goes_on place inside⟩
  · exact ⟨number, excluding.goes_on found begun⟩

end Excluding

/-! Every step is one less to take, and a sweep takes at least one, so all threads finish. -/

/-- How many steps all threads together have still to take. -/
def remaining (s : Contention) : Nat :=
  sumOver Worker.remaining s.workers

theorem Moves.remaining_lt {size number : Nat} {s next : Contention}
    (moves : Moves size number s next) : next.remaining < s.remaining := by
  have exchange {worker : Worker} (after : Worker) (found : s.workers[number]? = some worker)
      (less : after.remaining < worker.remaining) :
      sumOver Worker.remaining (s.workers.set number after) < s.remaining := by
    have exchanged := sumOver_set after found Worker.remaining
    rw [remaining]
    omega
  cases moves with
  | refused found | takes found | enters found | leaves found | passes found | releases found =>
    exact exchange _ found (by simp only [Worker.remaining, List.length_cons]; omega)

/-- Some of the threads take a step each, in the order of their numbers. -/
def turns (numbers : List Nat) (s : Contention) : Contention :=
  numbers.foldl (fun s number => (step? number s).getD s) s

theorem excluding_turns {size total : Nat} (numbers : List Nat) {s : Contention}
    (before : Excluding size total s) : Excluding size total (turns numbers s) := by
  induction numbers generalizing s with
  | nil => exact before
  | cons number others ih =>
    rw [turns, List.foldl_cons]
    cases going : step? number s with
    | none => exact ih before
    | some next => exact ih ((before.moves going).excluding before)

theorem remaining_turns_le {size total : Nat} (numbers : List Nat) {s : Contention}
    (before : Excluding size total s) : (turns numbers s).remaining ≤ s.remaining := by
  induction numbers generalizing s with
  | nil => exact Nat.le_refl _
  | cons number others ih =>
    rw [turns, List.foldl_cons]
    cases going : step? number s with
    | none => exact ih before
    | some next =>
      have moves := before.moves going
      exact Nat.le_trans (ih (moves.excluding before)) (Nat.le_of_lt moves.remaining_lt)

-- The first thread that can go on does, as nothing has changed before its turn.
theorem remaining_turns_lt {size total : Nat} {numbers : List Nat} {s next : Contention}
    {number : Nat} (before : Excluding size total s) (mine : number ∈ numbers)
    (going : step? number s = some next) : (turns numbers s).remaining < s.remaining := by
  induction numbers with
  | nil => cases mine
  | cons first others ih =>
    rw [turns, List.foldl_cons]
    cases moved : step? first s with
    | some other =>
      have moves := before.moves moved
      exact Nat.lt_of_le_of_lt (remaining_turns_le others (moves.excluding before))
        moves.remaining_lt
    | none =>
      have apart : number ≠ first := by
        intro same
        rw [same, moved] at going
        cases going
      exact ih (List.mem_of_ne_of_mem apart mine)

theorem isDone_run {size total : Nat} (fuel : Nat) {s : Contention}
    (before : Excluding size total s) (enough : s.remaining < fuel) :
    (run fuel s).isDone = true := by
  induction fuel generalizing s with
  | zero => omega
  | succ fuel ih =>
    rw [run]
    cases done : s.isDone with
    | true => simpa using done
    | false =>
      obtain ⟨number, next, going⟩ := before.progress done
      have mine : number ∈ List.range s.workers.length := by
        rw [List.mem_range]
        cases found : s.workers[number]? with
        | none => simp [step?, found] at going
        | some worker => exact (List.getElem?_eq_some_iff.mp found).1
      have less : s.sweep.remaining < s.remaining := remaining_turns_lt before mine going
      have later : Excluding size total s.sweep := excluding_turns _ before
      exact ih later (by omega)

theorem remaining_lt_fuel (s : Contention) : s.remaining < s.fuelFor := by
  have enough (workers : List Worker) (start : Nat) : start + sumOver Worker.remaining workers ≤
      workers.foldl (fun steps worker => steps + 4 * worker.rounds.length) start := by
    induction workers generalizing start with
    | nil => exact Nat.le_refl _
    | cons worker others ih =>
      have later := ih (start + 4 * worker.rounds.length)
      have less : worker.remaining ≤ 4 * worker.rounds.length := by
        unfold Worker.remaining
        split <;> omega
      rw [List.foldl_cons, sumOver]
      omega
  have all := enough s.workers 1
  rw [remaining, fuelFor]
  omega

/-- Whatever the pool, the threads, their rounds and the order of their steps: no two threads are
in the section of one index; every lock is taken free and given back by the thread that took it;
when all are done, each round that named a lock of the pool has entered its section once and every
lock is free; until then some thread can go on, and if they take turns they all finish. -/
theorem mutual_exclusion (size : Nat) (plans : List (List Round))
    (paired : ∀ plan ∈ plans, ∀ round ∈ plan, round.Paired) (schedule : List Nat) (s : Contention)
    (followed : follow? schedule (start size plans) = some s) :
    (∀ first second index, s.isInside first index = true → s.isInside second index = true →
      first = second) ∧
    s.clashes = 0 ∧
    Rightful s.calls ∧
    (s.isDone = true →
      s.entries = plans.flatten.countP (inPool size ·.index) ∧ s.pool = .free size) ∧
    (s.isDone = false → ∃ number next, step? number s = some next) ∧
    s.finish.isDone = true := by
  have excluding := excluding_follow (excluding_start size plans paired) followed
  have finished (done : s.isDone = true) :=
    And.intro (excluding.entries_of_done done) (excluding.free_of_done done)
  exact ⟨fun _ _ _ => excluding.alone, excluding.clashes, excluding.custody.rightful, finished,
    excluding.progress, isDone_run _ excluding (remaining_lt_fuel s)⟩

theorem mutual_exclusion_two_threads :
    ∃ s, follow? [0, 1, 1, 0, 0, 0, 1, 1, 1, 1]
        (start 1 [[⟨0, 1, 0⟩], [⟨5, 1, 0⟩, ⟨0, 9, 2⟩]]) = some s ∧
      s.isDone = true ∧ s.entries = 2 ∧ s.pool = .free 1 := by
  obtain ⟨s, followed⟩ := Option.isSome_iff_exists.mp (show (follow? [0, 1, 1, 0, 0, 0, 1, 1, 1, 1]
    (start 1 [[⟨0, 1, 0⟩], [⟨5, 1, 0⟩, ⟨0, 9, 2⟩]])).isSome = true by decide)
  have done : s.isDone = true := by
    have all : (follow? [0, 1, 1, 0, 0, 0, 1, 1, 1, 1]
      (start 1 [[⟨0, 1, 0⟩], [⟨5, 1, 0⟩, ⟨0, 9, 2⟩]])).any isDone = true := by decide
    simpa [followed] using all
  obtain ⟨entries, free⟩ := (mutual_exclusion 1 _ (by decide) _ s followed).2.2.2.1 done
  exact ⟨s, followed, done, entries, free⟩

end Contention

end CryptoProvider.Locking
