import CryptoProvider.Proofs.Locking.Pools

/-!
Which pool is published: the one of the newest setup that got a pool, for as long as the bridge it
made is not torn down.
-/

set_option autoImplicit false

namespace CryptoProvider.Locking

variable {ω : Type}

/-- The newest setup that published a pool, with what went before it and what came after it. -/
structure Newest [Memory ω] (s : Client ω) (earlier : List Operation) (number : Nat)
    (later : List Operation) : Prop where
  publishes : Publishes (after earlier s) number
  last : Throughout Operation.perform Silent (after (earlier ++ [.setup number]) s) later

/-- The bridge in a place is not torn down by any of the operations. -/
def Retained (place : Nat) (operations : List Operation) : Prop :=
  ∀ operation ∈ operations, operation.released? ≠ some place

theorem retained_snoc {place : Nat} {operations : List Operation} {last : Operation} :
    Retained place (operations ++ [last]) ↔
      Retained place operations ∧ last.released? ≠ some place := by
  simp [Retained, or_imp, forall_and]

theorem newest_snoc [Memory ω] {s : Client ω} {earlier later : List Operation} {number : Nat}
    {last : Operation} :
    Newest s earlier number (later ++ [last]) ↔
      Newest s earlier number later ∧ Silent (after (earlier ++ .setup number :: later) s) last := by
  rw [after_split]
  constructor
  · rintro ⟨publishes, silent⟩
    obtain ⟨before, quiet⟩ := (throughout_snoc later last).mp silent
    exact ⟨⟨publishes, before⟩, quiet⟩
  · rintro ⟨⟨publishes, before⟩, quiet⟩
    exact ⟨publishes, (throughout_snoc later last).mpr ⟨before, quiet⟩⟩

/-- A history has a newest setup that published a pool, or it published none. -/
theorem newest_or_silent [Memory ω] (s : Client ω) (operations : List Operation) :
    (∃ earlier number later, operations = earlier ++ .setup number :: later ∧
      Newest s earlier number later) ∨ Throughout Operation.perform Silent s operations := by
  induction operations using List.reverseRecOn with
  | nil => exact .inr trivial
  | append_singleton operations last ih =>
    by_cases silent : Silent (after operations s) last
    · rcases ih with ⟨earlier, number, later, rfl, newest⟩ | none
      · exact .inl ⟨earlier, number, later ++ [last], by simp, newest_snoc.mpr ⟨newest, silent⟩⟩
      · exact .inr ((throughout_snoc operations last).mpr ⟨none, silent⟩)
    · obtain ⟨number, rfl, publishes⟩ := exists_of_not_silent silent
      exact .inl ⟨operations, number, [], rfl, publishes, trivial⟩

theorem pool_of_silent [Memory ω] {s : Client ω} (empty : s.pool = none)
    {operations : List Operation} (silent : Throughout Operation.perform Silent s operations) :
    (after operations s).pool = none := by
  induction operations generalizing s with
  | nil => exact empty
  | cons operation rest ih =>
    obtain ⟨first, later⟩ := silent
    exact ih (((performed s operation).quiet first).pool_of_none empty) later

/-- The published pool is the one that the bridge in a place got, with this many locks. -/
structure InService (s : Client ω) (place : Nat) (count : Int) (published : Published) : Prop where
  pool : s.pool = some published
  share : s.share? place = some published.share
  size : (published.pool.size : Int) = count

namespace InService

variable {s u : Client ω} {place : Nat} {count : Int} {published : Published}

theorem of_publication {number : Nat} {made : Bridge} {pool : Pool}
    (publication : Publication s number made pool u) :
    InService u s.place (s.registry number).lockCount ⟨s.next, pool⟩ := by
  constructor
  · exact publication.published
  · rw [publication.share?]
    exact if_pos rfl
  · exact publication.size

theorem owns (service : InService s place count published) : s.Owns place :=
  ⟨published.share, published, service.share, service.pool, rfl⟩

-- A pool is owned by the bridge that got it and by no other.
theorem eq_of_owns (service : InService s place count published) (numbered : Numbered s)
    {other : Nat} (owns : s.Owns other) : other = place := by
  obtain ⟨share, found, held, pool, same⟩ := owns
  rw [service.pool] at pool
  cases pool
  exact numbered.distinct other place share published.share held service.share same

theorem pool_of_released (service : InService s place count published) (numbered : Numbered s)
    {operation : Operation} (quiet : Quiet s operation u)
    (kept : operation.released? ≠ some place) :
    u.pool.map Published.share = s.pool.map Published.share ∧
      (operation.isOfBridge = true → u.pool = s.pool) := by
  refine quiet.left fun other released owns => kept ?_
  rw [released, service.eq_of_owns numbered owns]

theorem keep (service : InService s place count published) (numbered : Numbered s)
    {operation : Operation} (quiet : Quiet s operation u)
    (kept : operation.released? ≠ some place) :
    ∃ published, InService u place count published := by
  have pool := (service.pool_of_released numbered quiet kept).1
  rw [service.pool] at pool
  obtain ⟨now, found, same⟩ := Option.map_eq_some_iff.mp pool
  refine ⟨now, found, ?_, ?_⟩
  · rw [quiet.share?_of_unreleased kept, service.share, same]
  · rw [← service.size]
    exact congrArg (fun share : PoolShare => (share.size : Int)) same

end InService

/-- From the newest setup on, its pool is in service until its bridge is torn down, and then none
is published. -/
theorem Newest.service [Memory ω] {s : Client ω} (untouched : Untouched s)
    {earlier later : List Operation} {number : Nat} (newest : Newest s earlier number later) :
    (Retained (after earlier s).place later ∧
      ∃ published, InService (after (earlier ++ .setup number :: later) s) (after earlier s).place
        ((after earlier s).registry number).lockCount published) ∨
    (¬ Retained (after earlier s).place later ∧
      (after (earlier ++ .setup number :: later) s).pool = none) := by
  induction later using List.reverseRecOn with
  | nil =>
    rw [after_snoc]
    obtain ⟨made, pool, publication⟩ := (performed _ _).publication newest.publishes
    exact .inl ⟨nofun, ⟨_, pool⟩, .of_publication publication⟩
  | append_singleton later last ih =>
    obtain ⟨before, silent⟩ := newest_snoc.mp newest
    have numbered := Numbered.after untouched (earlier ++ .setup number :: later)
    have quiet := (performed _ last).quiet silent
    rw [← List.cons_append, ← List.append_assoc, after_snoc, retained_snoc]
    rcases ih before with ⟨retained, published, service⟩ | ⟨released, none⟩
    · by_cases kept : last.released? = some (after earlier s).place
      · exact .inr ⟨fun both => both.2 kept, quiet.taken _ kept service.owns⟩
      · exact .inl ⟨⟨retained, kept⟩, service.keep numbered quiet kept⟩
    · exact .inr ⟨fun both => released both.1, quiet.pool_of_none none⟩

theorem Newest.inService [Memory ω] {s : Client ω} (untouched : Untouched s)
    {earlier later : List Operation} {number : Nat} (newest : Newest s earlier number later)
    (retained : Retained (after earlier s).place later) :
    ∃ published, InService (after (earlier ++ .setup number :: later) s) (after earlier s).place
      ((after earlier s).registry number).lockCount published := by
  rcases newest.service untouched with ⟨-, service⟩ | ⟨released, -⟩
  · exact service
  · exact absurd retained released

/-- A pool is published just while the bridge of the newest setup that got one is not torn down. -/
theorem isSome_pool_iff [Memory ω] {s : Client ω} (untouched : Untouched s)
    (operations : List Operation) :
    (after operations s).pool.isSome ↔
      ∃ earlier number later, operations = earlier ++ .setup number :: later ∧
        Newest s earlier number later ∧ Retained (after earlier s).place later := by
  constructor
  · intro filled
    rcases newest_or_silent s operations with ⟨earlier, number, later, rfl, newest⟩ | none
    · rcases newest.service untouched with ⟨retained, -⟩ | ⟨-, empty⟩
      · exact ⟨earlier, number, later, rfl, newest, retained⟩
      · simp [empty] at filled
    · simp [pool_of_silent untouched.pool none] at filled
  · rintro ⟨earlier, number, later, rfl, newest, retained⟩
    obtain ⟨published, service⟩ := newest.inService untouched retained
    simp [service.pool]

theorem exists_owner [Memory ω] {s : Client ω} (untouched : Untouched s)
    {operations : List Operation}
    (filled : (after operations s).pool.isSome) : ∃ place, (after operations s).Owns place := by
  obtain ⟨earlier, number, later, rfl, newest, retained⟩ :=
    (isSome_pool_iff untouched operations).mp filled
  obtain ⟨published, service⟩ := newest.inService untouched retained
  exact ⟨_, service.owns⟩

-- A bridge operation that publishes nothing can take out the newest pool only.
theorem pool_kept [Memory ω] {s : Client ω} (untouched : Untouched s) {operations : List Operation}
    {last : Operation} (silent : Silent (after operations s) last) (own : last.isOfBridge = true)
    (older : ∀ earlier number later, operations = earlier ++ .setup number :: later →
      Newest s earlier number later → last.released? ≠ some (after earlier s).place) :
    (after (operations ++ [last]) s).pool = (after operations s).pool := by
  have quiet := (performed _ last).quiet silent
  have stays (empty : (after operations s).pool = none) :
      (after (operations ++ [last]) s).pool = (after operations s).pool := by
    rw [after_snoc, quiet.pool_of_none empty, empty]
  rcases newest_or_silent s operations with ⟨earlier, number, later, rfl, newest⟩ | none
  · rcases newest.service untouched with ⟨-, published, service⟩ | ⟨-, empty⟩
    · rw [after_snoc]
      have kept := older earlier number later rfl newest
      exact (service.pool_of_released (.after untouched _) quiet kept).2 own
    · exact stays empty
  · exact stays (pool_of_silent untouched.pool none)

/-- Whatever is done with bridges: a pool is published just while the bridge of the newest setup
that got one is not torn down. It is that bridge's pool and no other's, with as many locks as its
library asked for. A setup that gets no pool leaves the published one as it is, and so does tearing
down any other bridge. -/
theorem pool_follows_newest [Memory ω] (s : Client ω) (untouched : Untouched s)
    (operations : List Operation) :
    ((after operations s).pool.isSome ↔
      ∃ earlier number later, operations = earlier ++ .setup number :: later ∧
        Newest s earlier number later ∧ Retained (after earlier s).place later) ∧
    (∀ earlier number later, operations = earlier ++ .setup number :: later →
      Newest s earlier number later → Retained (after earlier s).place later →
      ∃ published, (after operations s).pool = some published ∧
        (∀ place, (after operations s).share? place = some published.share ↔
          place = (after earlier s).place) ∧
        (published.pool.size : Int) = ((after earlier s).registry number).lockCount) ∧
    (∀ number, ¬ Publishes (after operations s) number →
      (after (operations ++ [.setup number]) s).pool = (after operations s).pool) ∧
    (∀ last place, last.released? = some place →
      (∀ earlier number later, operations = earlier ++ .setup number :: later →
        Newest s earlier number later → place ≠ (after earlier s).place) →
      (after (operations ++ [last]) s).pool = (after operations s).pool) := by
  constructor
  · exact isSome_pool_iff untouched operations
  refine ⟨?_, fun number refused => ?_, fun last place released older => ?_⟩
  · rintro earlier number later rfl newest retained
    obtain ⟨published, service⟩ := newest.inService untouched retained
    refine ⟨published, service.pool, fun place => ⟨fun held => ?_, ?_⟩, service.size⟩
    · have owns : Client.Owns _ place := ⟨published.share, published, held, service.pool, rfl⟩
      exact service.eq_of_owns (.after untouched _) owns
    · rintro rfl
      exact service.share
  · refine pool_kept untouched ?_ rfl nofun
    rintro other same
    cases same
    exact refused
  · have own := Operation.isOfBridge_of_released released
    refine pool_kept untouched ?_ own fun earlier number later split newest same => ?_
    · rintro number rfl
      cases released
    · rw [released] at same
      cases same
      exact older earlier number later split newest rfl

-- Of two bridges the older one is torn down.
theorem pool_follows_newest_overlapping :
    Untouched Client.single ∧
      ∃ earlier number later,
        [.setup 0, .setup 0, .teardown 0] = earlier ++ .setup number :: later ∧
          Newest Client.single earlier number later ∧
          Retained (after earlier Client.single).place later :=
  ⟨⟨rfl, rfl⟩, (pool_follows_newest Client.single ⟨rfl, rfl⟩
    [.setup 0, .setup 0, .teardown 0]).1.mp rfl⟩

end CryptoProvider.Locking
