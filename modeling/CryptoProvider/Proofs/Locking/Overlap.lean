import CryptoProvider.Proofs.Locking.Callbacks
import CryptoProvider.Proofs.Locking.Newest

/-!
Bridges that overlap: one gets its pool while another still has one. Until that happens the callback
is in the slot just while a pool is published. From then on the callback stays for good, since
no bridge that installed it ever owns the published pool again.
-/

set_option autoImplicit false

namespace CryptoProvider.Locking

variable {ω : Type}

/-- Bridges are set up for this registry only, and nobody else writes to its slot. -/
def Operation.Solely (number : Nat) : Operation → Prop
  | .setup other => other = number
  | .write other _ => other ≠ number
  | .teardown _ | .drop _ | .lockCount _ _ | .call _ _ _ _ _ => True

/-- A bridge gets its pool while another one still has one. -/
def Overlaps [Memory ω] (s : Client ω) (operation : Operation) : Prop :=
  ¬ Silent s operation ∧ ∃ place share, s.share? place = some share

/-- No bridge ever got its pool while another one still had one. -/
def Apart [Memory ω] (s : Client ω) (operations : List Operation) : Prop :=
  Throughout Operation.perform (fun s operation => ¬ Overlaps s operation) s operations

theorem apart_snoc [Memory ω] {s : Client ω} {operations : List Operation} {last : Operation} :
    Apart s (operations ++ [last]) ↔
      Apart s operations ∧ ¬ Overlaps (after operations s) last :=
  throughout_snoc operations last

/-- While no bridges overlapped: the callback is in the slot just while a pool is published, and the
bridge that installed it owns the pool. -/
structure Alone (number : Nat) (s : Client ω) : Prop where
  locks : (s.registry number).threadSafe = false
  callback : (s.registry number).callback = if s.pool.isSome then some .bridge else none
  shares : ∀ place share, s.share? place = some share →
    s.pool.map Published.share = some share
  ours : ∀ place bridge, s.bridge? place = some bridge →
    bridge.registry = number ∧ (bridge.state = .installedByUs ↔ bridge.share.isSome)

/-- Once bridges overlapped: the callback is in the slot, and no bridge that knows of it as its own
owns the pool. -/
structure Stranded (number : Nat) (s : Client ω) : Prop where
  callback : (s.registry number).callback = some .bridge
  astray : ∀ place bridge, s.bridge? place = some bridge →
    bridge.state = .installedByUs → ¬ s.Owns place

section

variable {s u : Client ω} {operation : Operation} {number : Nat}

theorem Operation.Solely.not_write (solely : operation.Solely number)
    (callback : Option Callback) : operation ≠ .write number callback := by
  rintro rfl
  exact solely rfl

-- Nothing can be installed where a callback is, so a new bridge leaves it to its owner.
theorem Performed.not_installed [Memory ω] (performed : Performed s operation u)
    (taken : (s.registry number).callback ≠ none) (solely : operation.Solely number)
    {place : Nat} {bridge : Bridge} (held : u.bridge? place = some bridge)
    (state : bridge.state = .installedByUs) :
    s.bridge? place = some bridge ∧ operation.released? ≠ some place := by
  rcases performed.origin held with kept | ⟨-, other, rfl, granted⟩ | ⟨old, -, rfl⟩
  · exact kept
  · have same : other = number := solely
    subst same
    have effect := performed.effect rfl other
    exact absurd (effect.vacant ⟨rfl, bridge, granted, state⟩) taken
  · exact absurd state old.tornDown_state

theorem Stranded.perform [Memory ω] (stranded : Stranded number s) (numbered : Numbered s)
    (performed : Performed s operation u) (solely : operation.Solely number) :
    Stranded number u := by
  have taken : (s.registry number).callback ≠ none := by simp [stranded.callback]
  constructor
  · cases own : operation.isOfBridge with
    | false =>
      exact (performed.callback_of_other own solely.not_write).trans stranded.callback
    | true =>
      cases performed.effect own number with
      | installed installs installed => exact absurd installed.vacant taken
      | withdrawn place withdraws withdrawn =>
        obtain ⟨bridge, held, -, state⟩ := withdraws.bridge
        exact absurd withdraws.owns (stranded.astray place bridge held state)
      | spared kept left spared => exact spared.callback.trans stranded.callback
  · intro place bridge held state owns
    obtain ⟨before, -⟩ := performed.not_installed taken solely held state
    have owned := performed.owns numbered (Client.lt_of_bridge? before) owns
    exact stranded.astray place bridge before state owned

namespace Alone

theorem installed_iff (alone : Alone number s) {place : Nat} {bridge : Bridge}
    (held : s.bridge? place = some bridge) : bridge.state = .installedByUs ↔ s.Owns place := by
  have share : s.share? place = bridge.share := by simp [Client.share?, held]
  rw [(alone.ours place bridge held).2, Option.isSome_iff_exists]
  constructor
  · rintro ⟨own, found⟩
    have pool := alone.shares place own (share.trans found)
    obtain ⟨published, there, same⟩ := Option.map_eq_some_iff.mp pool
    exact ⟨own, published, share.trans found, there, (congrArg PoolShare.number same).symm⟩
  · rintro ⟨own, published, found, -⟩
    exact ⟨own, share.symm.trans found⟩

theorem tornDown (alone : Alone number s) {place : Nat} {bridge : Bridge}
    (held : s.bridge? place = some bridge) :
    bridge.tornDown.registry = number ∧
      (bridge.tornDown.state = .installedByUs ↔ bridge.tornDown.share.isSome) := by
  constructor
  · exact (alone.ours place bridge held).1
  · exact iff_of_false bridge.tornDown_state Bool.false_ne_true

theorem callback_of_owns (alone : Alone number s) {place : Nat} (owns : s.Owns place) :
    (s.registry number).callback = some .bridge := by
  obtain ⟨share, published, -, found, -⟩ := owns
  simp [alone.callback, found]

-- The bridge that owns the pool finds its callback where it put it.
theorem withdraws (alone : Alone number s) {place : Nat}
    (released : operation.released? = some place) (owns : s.Owns place) :
    Withdraws s operation number place := by
  obtain ⟨bridge, held⟩ := owns.bridge
  constructor
  · exact released
  · exact ⟨bridge, held, (alone.ours place bridge held).1, (alone.installed_iff held).mpr owns⟩
  · exact owns
  · exact alone.callback_of_owns owns

-- A bridge that gets its pool beside another finds the callback of that one.
theorem strand [Memory ω] (alone : Alone number s) (numbered : Numbered s)
    (performed : Performed s operation u) (solely : operation.Solely number)
    (overlaps : Overlaps s operation) : Stranded number u := by
  obtain ⟨loud, other, share, held⟩ := overlaps
  obtain ⟨registry, rfl, publishes⟩ := exists_of_not_silent loud
  obtain ⟨made, pool, publication⟩ := performed.publication publishes
  have callback : (s.registry number).callback = some .bridge := by
    obtain ⟨published, found, -⟩ := Option.map_eq_some_iff.mp (alone.shares other share held)
    rw [alone.callback, found]
    rfl
  have taken : (s.registry number).callback ≠ none := by simp [callback]
  constructor
  · cases performed.effect rfl number with
    | installed installs installed => exact absurd installed.vacant taken
    | withdrawn place withdraws withdrawn => cases withdraws.released
    | spared kept left spared => exact spared.callback.trans callback
  · intro place bridge there state
    obtain ⟨before, -⟩ := performed.not_installed taken solely there state
    exact publication.not_owns numbered (Client.lt_of_bridge? before)

-- The first bridge after all others are torn down finds the slot empty.
theorem publish [Memory ω] (alone : Alone number s) (performed : Performed s operation u)
    (solely : operation.Solely number) (loud : ¬ Silent s operation)
    (vacant : s.pool = none) : Alone number u := by
  obtain ⟨registry, rfl, publishes⟩ := exists_of_not_silent loud
  have same : registry = number := solely
  subst same
  have empty : (s.registry registry).callback = none := by simp [alone.callback, vacant]
  have alones : ∀ place share, s.share? place ≠ some share := by
    intro place share held
    have pool := alone.shares place share held
    rw [vacant] at pool
    cases pool
  cases performed.effect rfl registry with
  | installed installs installed =>
    obtain ⟨pool, published, new⟩ := installed.published
    obtain ⟨made, other, publication⟩ := performed.publication publishes
    constructor
    · rw [performed.threadSafe]
      exact alone.locks
    · simp [installed.callback, published]
    · intro place share held
      rw [publication.share?] at held
      split at held
      · rw [publication.published]
        exact held
      · exact absurd held (alones place share)
    · intro place bridge held
      rcases performed.origin held with ⟨before, -⟩ | ⟨rfl, -⟩ | ⟨old, before, rfl⟩
      · exact alone.ours place bridge before
      · rw [new] at held
        cases held
        simp
      · exact alone.tornDown before
  | withdrawn place withdraws withdrawn => cases withdraws.released
  | spared kept left spared => exact absurd (publishes.installs empty) kept

-- What is torn down takes its callback and its pool with it, and nothing else changes either.
theorem keep [Memory ω] (alone : Alone number s) (numbered : Numbered s)
    (performed : Performed s operation u) (solely : operation.Solely number)
    (silent : Silent s operation) : Alone number u := by
  have quiet := performed.quiet silent
  constructor
  · rw [performed.threadSafe]
    exact alone.locks
  · cases own : operation.isOfBridge with
    | false =>
      rw [performed.callback_of_other own solely.not_write, quiet.isSome_pool (.of_other own)]
      exact alone.callback
    | true =>
      cases performed.effect own number with
      | installed installs installed => exact absurd installs.publishes (silent number installs.1)
      | withdrawn place withdraws withdrawn => simp [withdrawn.callback, withdrawn.pool]
      | spared kept left spared =>
        have keeps : KeepsPool s operation :=
          fun place released owns => left place (alone.withdraws released owns)
        rw [spared.callback, quiet.isSome_pool keeps]
        exact alone.callback
  · intro place share held
    obtain ⟨before, kept⟩ := quiet.share?_before held
    have pool := alone.shares place share before
    -- Were the pool taken out, its owner would be this bridge, which is not torn down.
    have keeps : KeepsPool s operation := by
      rintro other released ⟨own, published, found, there, same⟩
      rw [there] at pool
      cases pool
      rw [numbered.distinct other place own published.share found before same] at released
      exact kept released
    exact (quiet.left keeps).1.trans pool
  · intro place bridge held
    rcases performed.origin held with ⟨before, -⟩ | ⟨-, registry, rfl, granted⟩ | ⟨old, before, rfl⟩
    · exact alone.ours place bridge before
    · have same : registry = number := solely
      subst same
      exact absurd ⟨alone.locks, bridge, granted⟩ (silent registry rfl)
    · exact alone.tornDown before

end Alone

end

/-- The history of one library's bridges is in one of two states, for good in the second. -/
theorem alone_or_stranded [Memory ω] {s : Client ω} (untouched : Untouched s) {number : Nat}
    (locks : (s.registry number).threadSafe = false)
    (vacant : (s.registry number).callback = none) {operations : List Operation}
    (solely : ∀ operation ∈ operations, operation.Solely number) :
    (Apart s operations ∧ Alone number (after operations s)) ∨
      (¬ Apart s operations ∧ Stranded number (after operations s)) := by
  induction operations using List.reverseRecOn with
  | nil =>
    have nobody : ∀ place, s.bridge? place = none := by
      intro place
      simp [Client.bridge?, untouched.bridges]
    refine .inl ⟨trivial, locks, ?_, ?_, ?_⟩
    · simp [after, vacant, untouched.pool]
    · simp [after, Client.share?, nobody]
    · simp [after, nobody]
  | append_singleton operations last ih =>
    obtain ⟨sole, only⟩ := List.forall_mem_append.mp solely
    have own : last.Solely number := only last (List.mem_singleton_self last)
    have numbered := Numbered.after untouched operations
    have step := performed (after operations s) last
    rw [apart_snoc, after_snoc]
    rcases ih sole with ⟨apart, alone⟩ | ⟨overlapped, stranded⟩
    · by_cases overlaps : Overlaps (after operations s) last
      · exact .inr ⟨fun both => both.2 overlaps, alone.strand numbered step own overlaps⟩
      · refine .inl ⟨⟨apart, overlaps⟩, ?_⟩
        by_cases silent : Silent (after operations s) last
        · exact alone.keep numbered step own silent
        · -- Were a pool published, its owner would still have it.
          refine alone.publish step own silent (Option.not_isSome_iff_eq_none.mp fun filled => ?_)
          obtain ⟨place, share, published, held, -⟩ := exists_owner untouched filled
          exact overlaps ⟨silent, place, share, held⟩
    · exact .inr ⟨fun both => overlapped both.1, stranded.perform numbered step own⟩

/-- One library's bridges, set up and torn down in any order. As long as none of them gets its pool
while another still has one: the callback is in the slot just while a pool is published, a bridge
that installed it owns that pool, and once all are torn down the slot is empty. From then on the
callback is in the slot for good: it has a pool while the bridge of the newest setup is not torn
down, and a bridge that installed it never owns that pool. -/
theorem callback_served [Memory ω] (s : Client ω) (untouched : Untouched s) (number : Nat)
    (locks : (s.registry number).threadSafe = false)
    (vacant : (s.registry number).callback = none) (operations : List Operation)
    (solely : ∀ operation ∈ operations, operation.Solely number) :
    (Apart s operations →
      (((after operations s).registry number).callback = some .bridge ↔
        (after operations s).pool.isSome) ∧
      (∀ place bridge, (after operations s).bridge? place = some bridge →
        bridge.state = .installedByUs →
        ((after operations s).registry number).callback = some .bridge ∧
          (after operations s).Owns place) ∧
      ((∀ place, (after operations s).share? place = none) →
        ((after operations s).registry number).callback = none)) ∧
    (¬ Apart s operations →
      ((after operations s).registry number).callback = some .bridge ∧
      ((after operations s).pool.isSome ↔
        ∃ earlier other later, operations = earlier ++ .setup other :: later ∧
          Newest s earlier other later ∧ Retained (after earlier s).place later) ∧
      (∀ place bridge, (after operations s).bridge? place = some bridge →
        bridge.state = .installedByUs → ¬ (after operations s).Owns place)) := by
  rcases alone_or_stranded untouched locks vacant solely with ⟨apart, alone⟩ | ⟨apart, stranded⟩
  · refine ⟨fun _ => ⟨?_, fun place bridge held state => ?_, fun released => ?_⟩,
      fun overlapped => absurd apart overlapped⟩
    · rw [alone.callback]
      split <;> simp_all
    · have owns := (alone.installed_iff held).mp state
      exact ⟨alone.callback_of_owns owns, owns⟩
    · cases filled : (after operations s).pool.isSome with
      | false => simp [alone.callback, filled]
      | true =>
        obtain ⟨place, share, published, held, -⟩ := exists_owner untouched filled
        cases (released place).symm.trans held
  · refine ⟨fun together => absurd together apart, fun _ => ?_⟩
    exact ⟨stranded.callback, isSome_pool_iff untouched operations, stranded.astray⟩

-- One bridge alone owns the pool; of two, both torn down, the callback is left.
theorem callback_served_single :
    (Untouched Client.single ∧ (Client.single.registry 0).threadSafe = false ∧
      (Client.single.registry 0).callback = none ∧
      ∀ operation ∈ [.setup 0, .setup 0, .teardown 0, .teardown 1],
        Operation.Solely 0 operation) ∧
    (after [.setup 0] Client.single).Owns 0 ∧
    ((after [.setup 0, .setup 0, .teardown 0, .teardown 1] Client.single).registry 0).callback =
      some .bridge := by
  have apart : Apart Client.single [.setup 0] := by
    refine ⟨?_, trivial⟩
    rintro ⟨-, place, share, held⟩
    cases held
  have overlapped : ¬ Apart Client.single [.setup 0, .setup 0, .teardown 0, .teardown 1] := by
    rintro ⟨-, apart, -⟩
    exact apart ⟨fun silent => silent 0 rfl ⟨rfl, _, rfl⟩, 0, _, rfl⟩
  have solely : ∀ operation ∈ [.setup 0, .setup 0, .teardown 0, .teardown 1],
      Operation.Solely 0 operation := by simp [Operation.Solely]
  refine ⟨⟨⟨rfl, rfl⟩, rfl, rfl, solely⟩, ?_, ?_⟩
  · have served := (callback_served Client.single ⟨rfl, rfl⟩ 0 rfl rfl [.setup 0]
      (by simp [Operation.Solely])).1 apart
    exact (served.2.1 0 _ rfl rfl).2
  · have left := (callback_served Client.single ⟨rfl, rfl⟩ 0 rfl rfl _ solely).2 overlapped
    exact left.1

-- The newer of two bridges takes the only pool with it, and the callback of the older one is left
-- without any; so it is once both are torn down.
theorem callback_unserved :
    (∀ operation ∈ [.setup 0, .setup 0, .teardown 1, .teardown 0],
      Operation.Solely 0 operation) ∧
    ((after [.setup 0, .setup 0, .teardown 1] Client.single).registry 0).callback =
      some .bridge ∧
    (after [.setup 0, .setup 0, .teardown 1] Client.single).pool = none ∧
    ((after [.setup 0, .setup 0, .teardown 1] Client.single).bridge? 0).map Bridge.state =
      some .installedByUs ∧
    (after [.setup 0, .setup 0, .teardown 1, .teardown 0] Client.single).bridges =
      [some ⟨0, none, .notInstalled⟩, some ⟨0, none, .installedByOther⟩] ∧
    ((after [.setup 0, .setup 0, .teardown 1, .teardown 0] Client.single).registry 0).callback =
      some .bridge :=
  ⟨by simp [Operation.Solely], rfl, rfl, rfl, rfl, rfl⟩

end CryptoProvider.Locking
