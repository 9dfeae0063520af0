import CryptoProvider.Proofs.Locking.History
import Mathlib.Data.List.Induction

/-!
The published pool over a history of lock bridges. A setup that gets its pool publishes it over any
other; a bridge that is torn down takes out the pool only while it is its own.
-/

set_option autoImplicit false

namespace CryptoProvider.Locking

open Ledger

variable {ω : Type}

/-- A pool that a bridge owns is taken out of the slot when it is torn down, and no other. -/
theorem pool_dismantled (bridge : Bridge) (contents : Slots ω) :
    (bridge.dismantle contents).pool =
      if bridge.ownsSlot contents then none else contents.pool := by
  unfold Bridge.dismantle Bridge.withdrawCallback
  split <;> split <;> rfl

/-- A setup for this registry would publish a pool. -/
def Publishes [Memory ω] (s : Client ω) (number : Nat) : Prop :=
  (s.registry number).threadSafe = false ∧
    ∃ bridge, (Bridge.setup number s.toPlatform).1 = .ok bridge

/-- Not a setup that publishes a pool. -/
def Silent [Memory ω] (s : Client ω) (operation : Operation) : Prop :=
  ∀ number, operation = .setup number → ¬ Publishes s number

theorem exists_of_not_silent [Memory ω] {s : Client ω} {operation : Operation}
    (loud : ¬ Silent s operation) : ∃ number, operation = .setup number ∧ Publishes s number := by
  simpa [Silent] using loud

/-- The published pool is the one of the bridge in a place. -/
def Client.Owns (s : Client ω) (place : Nat) : Prop :=
  ∃ share published, s.share? place = some share ∧ s.pool = some published ∧
    share.number = published.number

theorem Client.Owns.bridge {s : Client ω} {place : Nat} (owns : s.Owns place) :
    ∃ bridge, s.bridge? place = some bridge := by
  obtain ⟨share, published, found, -⟩ := owns
  obtain ⟨bridge, held, -⟩ := Option.bind_eq_some_iff.mp found
  exact ⟨bridge, held⟩

theorem Client.owns_iff {s : Client ω} {place : Nat} {bridge : Bridge}
    (held : s.bridge? place = some bridge) :
    s.Owns place ↔ bridge.ownsSlot (slots s.toPlatform) = true := by
  have pool : (slots s.toPlatform).pool = s.pool := rfl
  unfold Client.Owns Client.share? Bridge.ownsSlot
  rw [held, pool]
  cases shared : bridge.share <;> cases published : s.pool <;> simp [shared]

/-- Tears down no bridge that owns the published pool. -/
def KeepsPool (s : Client ω) (operation : Operation) : Prop :=
  ∀ place, operation.released? = some place → ¬ s.Owns place

theorem KeepsPool.of_other {s : Client ω} {operation : Operation}
    (other : operation.isOfBridge = false) : KeepsPool s operation := by
  intro place released
  rw [Operation.released?_of_other other] at released
  cases released

/-- What a setup that publishes a pool adds. -/
structure Publication (s : Client ω) (number : Nat) (made : Bridge) (pool : Pool) (u : Client ω) :
    Prop where
  bridges : u.bridges = s.bridges ++ [some made]
  share : made.share = some ⟨s.next, pool.size⟩
  size : (pool.size : Int) = (s.registry number).lockCount
  published : u.pool = some ⟨s.next, pool⟩
  next : u.next = s.next + 1

/-- What becomes of the pools where none is published. -/
structure Quiet (s : Client ω) (operation : Operation) (u : Client ω) : Prop where
  next : u.next = s.next
  shares : ∀ place,
    u.share? place = if operation.released? = some place then none else s.share? place
  taken : ∀ place, operation.released? = some place → s.Owns place → u.pool = none
  left : KeepsPool s operation →
    u.pool.map Published.share = s.pool.map Published.share ∧
      (operation.isOfBridge = true → u.pool = s.pool)

-- Nothing is released and nothing new published.
theorem Quiet.of_shares {s u : Client ω} {operation : Operation} (next : u.next = s.next)
    (shares : ∀ place, u.share? place = s.share? place) (unreleased : operation.released? = none)
    (pool : u.pool.map Published.share = s.pool.map Published.share)
    (same : operation.isOfBridge = true → u.pool = s.pool) : Quiet s operation u := by
  constructor
  · exact next
  · simp [unreleased, shares]
  · simp [unreleased]
  · exact fun _ => ⟨pool, same⟩

namespace Quiet

variable {s u : Client ω} {operation : Operation}

theorem pool_of_none (quiet : Quiet s operation u) (empty : s.pool = none) : u.pool = none := by
  have keeps : KeepsPool s operation := by
    rintro place - ⟨share, published, -, found, -⟩
    rw [empty] at found
    cases found
  have left := (quiet.left keeps).1
  rw [empty] at left
  exact Option.map_eq_none_iff.mp left

theorem isSome_pool (quiet : Quiet s operation u) (keeps : KeepsPool s operation) :
    u.pool.isSome = s.pool.isSome := by
  have same := congrArg Option.isSome (quiet.left keeps).1
  simpa using same

theorem share?_of_unreleased (quiet : Quiet s operation u) {place : Nat}
    (kept : operation.released? ≠ some place) : u.share? place = s.share? place :=
  (quiet.shares place).trans (if_neg kept)

/-! What is there afterwards was there before. -/

theorem share?_before (quiet : Quiet s operation u) {place : Nat} {share : PoolShare}
    (held : u.share? place = some share) :
    s.share? place = some share ∧ operation.released? ≠ some place := by
  rw [quiet.shares] at held
  split at held
  · cases held
  · next kept => exact ⟨held, kept⟩

theorem pool_before (quiet : Quiet s operation u) {published : Published}
    (found : u.pool = some published) :
    KeepsPool s operation ∧
      ∃ earlier, s.pool = some earlier ∧ earlier.share = published.share := by
  have keeps : KeepsPool s operation := by
    intro place released owns
    rw [quiet.taken place released owns] at found
    cases found
  have pool := (quiet.left keeps).1
  rw [found] at pool
  exact ⟨keeps, Option.map_eq_some_iff.mp pool.symm⟩

theorem owns (quiet : Quiet s operation u) {place : Nat} (owns : u.Owns place) :
    s.Owns place := by
  obtain ⟨share, published, held, found, same⟩ := owns
  obtain ⟨-, earlier, there, shared⟩ := quiet.pool_before found
  have number : earlier.number = published.number := congrArg PoolShare.number shared
  exact ⟨share, earlier, (quiet.share?_before held).1, there, same.trans number.symm⟩

end Quiet

theorem Performed.publication [Memory ω] {s u : Client ω} {number : Nat}
    (performed : Performed s (.setup number) u) (publishes : Publishes s number) :
    ∃ made pool, Publication s number made pool u := by
  obtain ⟨locks, bridge, granted⟩ := publishes
  cases performed with
  | setUp answered setUp =>
    rw [granted] at answered
    subst answered
    cases setUp with
    | inert safe => simp [safe] at locks
    | installed pool _ _ vacant size told next =>
      exact ⟨_, pool, rfl, rfl, size, pool_of_slots told.2, next⟩
    | deferring pool _ _ taken size told next =>
      exact ⟨_, pool, rfl, rfl, size, pool_of_slots told.2, next⟩
  | absent released vacant => cases released
  | released released => cases released
  | served own => cases own

theorem Performed.quiet [Memory ω] {s u : Client ω} {operation : Operation}
    (performed : Performed s operation u) (silent : Silent s operation) :
    Quiet s operation u := by
  cases performed with
  | @setUp number made now answered setUp =>
    have refused := silent number rfl
    cases setUp with
    | inert safe =>
      have shares : ∀ place, Client.share? ⟨s.toPlatform,
          s.bridges ++ [some ⟨number, none, .notInstalled⟩]⟩ place = s.share? place := by
        intro place
        rw [Client.share?_append]
        split
        · next last => simp [Client.share?, Client.bridge?, Client.place, last]
        · rfl
      exact .of_shares rfl shares rfl rfl fun _ => rfl
    | refused cause _ locks told next =>
      have pool : now.pool = s.pool := pool_of_slots told.2
      have shares : ∀ place, Client.share? ⟨now, s.bridges ++ []⟩ place = s.share? place := by
        intro place
        simp [Client.share?, Client.bridge?]
      exact .of_shares next shares rfl (congrArg _ pool) fun _ => pool
    | installed pool _ locks => exact absurd ⟨locks, _, answered⟩ refused
    | deferring pool _ locks => exact absurd ⟨locks, _, answered⟩ refused
  | @absent _ place released vacant =>
    have none : s.share? place = none := by simp [Client.share?, vacant]
    constructor
    · rfl
    · intro other
      split
      · next same =>
        rw [released] at same
        cases same
        exact none
      · rfl
    · rintro other same ⟨share, _, held, _⟩
      rw [released] at same
      cases same
      rw [none] at held
      cases held
    · exact fun _ => ⟨rfl, fun _ => rfl⟩
  | @released _ place bridge rest now released held left told next =>
    have pool : now.pool = if bridge.ownsSlot (slots s.toPlatform) then none else s.pool :=
      (pool_of_slots told.2).trans (pool_dismantled bridge _)
    constructor
    · exact next
    · intro other
      rw [Client.share?_released held left, released]
      simp only [Option.some.injEq, eq_comm]
    · intro other same owns
      rw [released] at same
      cases same
      exact pool.trans (if_pos ((Client.owns_iff held).mp owns))
    · intro keeps
      have kept : now.pool = s.pool :=
        pool.trans (if_neg fun owns => keeps place released ((Client.owns_iff held).mpr owns))
      exact ⟨congrArg _ kept, fun _ => kept⟩
  | wrote written next =>
    exact .of_shares next (fun _ => rfl) rfl (congrArg _ (pool_of_slots written))
      (by simp [Operation.isOfBridge])
  | served own alike next =>
    exact .of_shares next (fun _ => rfl) (Operation.released?_of_other own) alike.share
      (by simp [own])

theorem Publication.share? {s u : Client ω} {number : Nat} {made : Bridge} {pool : Pool}
    (publication : Publication s number made pool u) (place : Nat) :
    u.share? place =
      if place = s.place then some ⟨s.next, pool.size⟩ else s.share? place := by
  obtain ⟨now, bridges⟩ := u
  have appended : bridges = s.bridges ++ [some made] := publication.bridges
  subst appended
  rw [Client.share?_append, publication.share]

/-- Pools and what bridges know of them: every number was given out before, and no two bridges share
a pool. -/
structure Numbered (s : Client ω) : Prop where
  published : ∀ published, s.pool = some published → published.number < s.next
  issued : ∀ place share, s.share? place = some share → share.number < s.next
  distinct : ∀ place other first second, s.share? place = some first →
    s.share? other = some second → first.number = second.number → place = other

-- The new pool is nobody else's.
theorem Publication.not_owns {s u : Client ω} {number : Nat} {made : Bridge} {pool : Pool}
    (publication : Publication s number made pool u) (numbered : Numbered s) {place : Nat}
    (early : place < s.place) : ¬ u.Owns place := by
  rintro ⟨share, published, held, found, same⟩
  rw [publication.share?, if_neg (Nat.ne_of_lt early)] at held
  rw [publication.published] at found
  cases found
  exact absurd same (Nat.ne_of_lt (numbered.issued place share held))

namespace Numbered

variable {s u : Client ω}

theorem untouched (untouched : Untouched s) : Numbered s := by
  have nothing : ∀ place, s.share? place = none := by
    intro place
    simp [Client.share?, Client.bridge?, untouched.bridges]
  constructor
  · simp [untouched.pool]
  · simp [nothing]
  · simp [nothing]

-- A pool that is published gets the next number, which nobody else has.
theorem publish (numbered : Numbered s) {number : Nat} {made : Bridge} {pool : Pool}
    (publication : Publication s number made pool u) : Numbered u := by
  constructor
  · intro published same
    rw [publication.published] at same
    cases same
    simp [publication.next]
  · intro place share held
    rw [publication.share?] at held
    rw [publication.next]
    split at held
    · cases held
      exact Nat.lt_succ_self _
    · exact Nat.lt_succ_of_lt (numbered.issued place share held)
  · intro place other first second held others same
    rw [publication.share?] at held others
    split at held <;> split at others
    · next here there => exact here.trans there.symm
    · have early := numbered.issued other second others
      cases held
      simp only at same
      omega
    · have early := numbered.issued place first held
      cases others
      simp only at same
      omega
    · exact numbered.distinct place other first second held others same

-- Nothing is published and no bridge gets a pool.
theorem retain (numbered : Numbered s) {operation : Operation} (quiet : Quiet s operation u) :
    Numbered u := by
  have next := quiet.next
  constructor
  · intro published found
    obtain ⟨-, earlier, there, shared⟩ := quiet.pool_before found
    have number : earlier.number = published.number := congrArg PoolShare.number shared
    have early := numbered.published earlier there
    omega
  · intro place share held
    have early := numbered.issued place share (quiet.share?_before held).1
    omega
  · intro place other first second held others
    exact numbered.distinct place other first second (quiet.share?_before held).1
      (quiet.share?_before others).1

theorem perform [Memory ω] {operation : Operation} (numbered : Numbered s)
    (performed : Performed s operation u) : Numbered u := by
  by_cases silent : Silent s operation
  · exact numbered.retain (performed.quiet silent)
  · obtain ⟨number, rfl, publishes⟩ := exists_of_not_silent silent
    obtain ⟨made, pool, publication⟩ := performed.publication publishes
    exact numbered.publish publication

theorem after [Memory ω] (start : Untouched s) (operations : List Operation) :
    Numbered (Locking.after operations s) := by
  induction operations using List.reverseRecOn with
  | nil => exact untouched start
  | append_singleton operations last numbered =>
    rw [after_snoc]
    exact numbered.perform (performed _ last)

end Numbered

-- A bridge that was there before owns what is published only if it did already.
theorem Performed.owns [Memory ω] {s u : Client ω} {operation : Operation}
    (performed : Performed s operation u) (numbered : Numbered s) {place : Nat}
    (early : place < s.place) (owns : u.Owns place) : s.Owns place := by
  by_cases silent : Silent s operation
  · exact (performed.quiet silent).owns owns
  · obtain ⟨number, rfl, publishes⟩ := exists_of_not_silent silent
    obtain ⟨made, pool, publication⟩ := performed.publication publishes
    exact absurd owns (publication.not_owns numbered early)

end CryptoProvider.Locking
