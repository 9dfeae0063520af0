import CryptoProvider.Proofs.Ledger.Releases

/-!
One bridge: what setting it up and tearing it down come to. A setup fails before it publishes
anything, and publishes its pool before it touches the callback slot.
-/

set_option autoImplicit false

namespace CryptoProvider.Locking

open Ledger

variable {ω : Type}

/-- What setting a bridge up comes to: the answer, and the process afterwards. -/
inductive SetUp (number : Nat) (s : Platform ω) : Except Error Bridge → Platform ω → Prop where
  | inert (safe : (s.registry number).threadSafe = true) :
      SetUp number s (.ok ⟨number, none, .notInstalled⟩) s
  | refused (cause : Error) (t : Platform ω) (locks : (s.registry number).threadSafe = false)
      (told : Told (s.acts ++ [.call (.lockCount number (s.registry number).lockCount)])
        (slots s) t)
      (next : t.next = s.next) : SetUp number s (.error cause) t
  | installed (pool : Pool) (t : Platform ω) (locks : (s.registry number).threadSafe = false)
      (vacant : (s.registry number).callback = none)
      (size : (pool.size : Int) = (s.registry number).lockCount)
      (told : Told
        (s.acts ++ [.call (.lockCount number (s.registry number).lockCount),
          .change (.pool (some s.next)), .call (.callbackSet number (some .bridge))])
        ({ slots s with pool := some ⟨s.next, pool⟩ }.setCallback number (some .bridge)) t)
      (next : t.next = s.next + 1) :
      SetUp number s (.ok ⟨number, some ⟨s.next, pool.size⟩, .installedByUs⟩) t
  /-- A pool was published and another's callback left in place. -/
  | deferring (pool : Pool) (t : Platform ω) (locks : (s.registry number).threadSafe = false)
      (taken : (s.registry number).callback ≠ none)
      (size : (pool.size : Int) = (s.registry number).lockCount)
      (told : Told
        (s.acts ++ [.call (.lockCount number (s.registry number).lockCount),
          .change (.pool (some s.next))])
        { slots s with pool := some ⟨s.next, pool⟩ } t)
      (next : t.next = s.next + 1) :
      SetUp number s (.ok ⟨number, some ⟨s.next, pool.size⟩, .installedByOther⟩) t

/-! A setup changes the slots as `Bridge.Established` says, or not at all. -/

theorem SetUp.established {number : Nat} {s t : Platform ω} {bridge : Bridge}
    (setUp : SetUp number s (.ok bridge) t) :
    Bridge.Established number (slots s) bridge (slots t) := by
  cases setUp with
  | inert safe => exact .inert safe
  | installed pool _ locks vacant size told next =>
    have needed : ((slots s).registry number).threadSafe = false := locks
    rw [told.2]
    exact .installed needed vacant ⟨s.next, pool⟩
  | deferring pool _ locks taken size told next =>
    have needed : ((slots s).registry number).threadSafe = false := locks
    rw [told.2]
    exact .deferring needed taken ⟨s.next, pool⟩

theorem SetUp.needed {number : Nat} {s t : Platform ω} {bridge : Bridge}
    (setUp : SetUp number s (.ok bridge) t) (state : bridge.state = .installedByUs) :
    bridge.registry = number ∧ (s.registry number).threadSafe = false := by
  cases setUp with
  | inert safe => cases state
  | installed pool _ locks vacant size told next => exact ⟨rfl, locks⟩
  | deferring pool _ locks taken size told next => cases state

theorem SetUp.installedByUs {number : Nat} {s t : Platform ω} {bridge : Bridge}
    (setUp : SetUp number s (.ok bridge) t) (locks : (s.registry number).threadSafe = false)
    (vacant : (s.registry number).callback = none) : bridge.state = .installedByUs := by
  cases setUp with
  | inert safe => simp [safe] at locks
  | installed pool _ _ _ size told next => rfl
  | deferring pool _ _ taken size told next => exact absurd vacant taken

theorem SetUp.slots_of_error {number : Nat} {s t : Platform ω} {cause : Error}
    (setUp : SetUp number s (.error cause) t) : slots t = slots s := by
  cases setUp with
  | refused _ _ locks told next => exact told.2

namespace Bridge

/-- A bridge that has been torn down. -/
def tornDown (bridge : Bridge) : Bridge :=
  { bridge with
    share := none
    state := if bridge.state = .installedByUs then .notInstalled else bridge.state }

theorem tornDown_state (bridge : Bridge) : bridge.tornDown.state ≠ .installedByUs := by
  unfold tornDown
  split <;> simp_all

section

variable [Memory ω] {count : Int} {s : Platform ω}

theorem size_of_allocate {pool : Pool} (allocated : (allocate count s).1 = .ok pool) :
    (pool.size : Int) = count := by
  unfold allocate at allocated
  split at allocated
  · cases allocated
  case isFalse some =>
    change (if _ then Except.ok (Pool.free count.toNat) else _) = _ at allocated
    split at allocated
    · cases allocated
      exact Int.toNat_of_nonneg (by omega)
    · cases allocated

-- Memory is asked without a trace.
theorem told_allocate {past : List Act} {contents : Slots ω} {next : Nat} :
    Ensures (fun s => Told past contents s ∧ s.next = next) (allocate count) fun made s =>
      (∀ pool, made = .ok pool → (pool.size : Int) = count) ∧
        Told past contents s ∧ s.next = next := by
  intro s before
  refine ⟨fun pool => size_of_allocate, ?_⟩
  unfold allocate
  split <;> exact before

end

-- The pool is out already; what is left is the callback slot.
theorem setUp_install {number : Nat} {s t : Platform ω} (pool : Pool)
    (locks : (s.registry number).threadSafe = false)
    (size : (pool.size : Int) = (s.registry number).lockCount)
    (told : Told (s.acts ++ [.call (.lockCount number (s.registry number).lockCount),
      .change (.pool (some s.next))]) { slots s with pool := some ⟨s.next, pool⟩ } t)
    (next : t.next = s.next + 1) :
    Ensures (· = t) (install number) fun state u =>
      SetUp number s (.ok ⟨number, some ⟨s.next, pool.size⟩, state⟩) u := by
  have same : t.registry number = s.registry number := registry_of_slots told.2 number
  unfold install
  refine Ensures.read ?_
  rintro t rfl
  dsimp only
  cases held : (t.registry number).callback with
  | none =>
    rw [same] at held
    have recorded := @Told.record _ _ _ (t.registry number).reported
      (.callbackSet number (some .bridge)) t told
    have written := @Told.writeCallback _ _ _ number (some .bridge) _ recorded
    rw [List.append_assoc] at written
    rintro _ rfl
    exact .installed pool _ locks held size written next
  | some callback =>
    rw [same] at held
    have deferred := @Told.note _ _ _ .callbackAlreadyInstalled t told
    rintro _ rfl
    exact .deferring pool _ locks (by simp [held]) size deferred next

theorem setUp [Memory ω] (number : Nat) (s : Platform ω) :
    SetUp number s (setup number s).1 (setup number s).2 := by
  suffices spec : Ensures (· = s) (setup number) (SetUp number s) from spec s rfl
  unfold setup
  refine Ensures.read ?_
  rintro s rfl
  dsimp only
  cases safe : (s.registry number).threadSafe with
  | true =>
    rintro _ rfl
    exact .inert safe
  | false =>
    let acts := s.acts ++ [.call (.lockCount number (s.registry number).lockCount)]
    refine Ensures.step (@Ensures.strengthen _ _ _
      (fun t => Told acts (slots s) t ∧ t.next = s.next) _ _ ?_ ?counted)
    case counted =>
      rintro _ rfl
      exact ⟨Told.record s ⟨rfl, rfl⟩, rfl⟩
    refine Ensures.bind told_allocate fun made => Ensures.given fun sized => ?_
    cases made with
    | error cause => exact fun t ⟨told, next⟩ => .refused cause t safe told next
    | ok pool =>
      rintro t ⟨told, next⟩
      have published := @Told.setPool _ _ _ (some ⟨s.next, pool⟩) _ (Told.fresh t told)
      rw [List.append_assoc] at published
      have share : (Platform.fresh t).1 = s.next := next
      dsimp only
      rw [bind_apply, share]
      refine Ensures.step ?_ _ rfl
      exact Ensures.bind (setUp_install pool safe (sized pool rfl) published
        (congrArg (· + 1) next)) fun state => Ensures.pure fun _ setUp => setUp

theorem removeCallback_next (bridge : Bridge) (owns : Bool) (s : Platform ω) :
    (bridge.removeCallback owns s).2.next = s.next := by
  unfold removeCallback
  rw [bind_apply]
  split <;> rfl

theorem teardown_answer (bridge : Bridge) (s : Platform ω) :
    (bridge.teardown s).1 = bridge.tornDown ∧ (bridge.teardown s).2.next = s.next := by
  unfold teardown tornDown
  rw [bind_apply]
  by_cases ours : bridge.state = .installedByUs
  · simp only [ours, if_true, bind_apply]
    split
    · exact ⟨rfl, bridge.removeCallback_next _ s⟩
    · exact ⟨rfl, bridge.removeCallback_next _ s⟩
  · simp only [ours, if_false]
    split <;> exact ⟨rfl, rfl⟩

end Bridge

end CryptoProvider.Locking
