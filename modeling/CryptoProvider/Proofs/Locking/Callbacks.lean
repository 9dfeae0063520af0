import CryptoProvider.Proofs.Locking.Pools

/-!
Callback slots over a history of lock bridges. A bridge writes to a slot in two ways only: a setup
puts its callback where none is, and the first teardown takes it out while it is still there and the
pool still the bridge's own. What other components write stays.
-/

set_option autoImplicit false

namespace CryptoProvider.Locking

open Ledger

variable {ω : Type}

/-- A setup that ends with its callback installed. -/
def Installs [Memory ω] (s : Client ω) (operation : Operation) (number : Nat) : Prop :=
  operation = .setup number ∧
    ∃ bridge, (Bridge.setup number s.toPlatform).1 = .ok bridge ∧ bridge.state = .installedByUs

/-- The bridge in a place is torn down while the callback in the slot is its own and so is the
published pool. -/
structure Withdraws (s : Client ω) (operation : Operation) (number place : Nat) : Prop where
  released : operation.released? = some place
  bridge : ∃ bridge, s.bridge? place = some bridge ∧ bridge.registry = number ∧
    bridge.state = .installedByUs
  owns : s.Owns place
  callback : (s.registry number).callback = some .bridge

/-- A callback was put into an empty slot, once the new bridge's pool was published. -/
structure Installed (number : Nat) (s u : Client ω) : Prop where
  vacant : (s.registry number).callback = none
  callback : (u.registry number).callback = some .bridge
  published : ∃ pool, u.pool = some ⟨s.next, pool⟩ ∧
    u.bridge? s.place = some ⟨number, some ⟨s.next, pool.size⟩, .installedByUs⟩
  acts : u.acts = s.acts ++
    [.call (.lockCount number (s.registry number).lockCount), .change (.pool (some s.next)),
      .call (.callbackSet number (some .bridge))]

/-- The callback was taken out, and the pool after it. -/
structure Withdrawn (number : Nat) (s u : Client ω) : Prop where
  callback : (u.registry number).callback = none
  pool : u.pool = none
  acts : u.acts = s.acts ++ [.call (.callbackSet number none), .change (.pool none)]

/-- The slot is as it was, and nothing was written to it. -/
structure Spared (number : Nat) (s u : Client ω) : Prop where
  callback : (u.registry number).callback = (s.registry number).callback
  acts : ∃ made, u.acts = s.acts ++ made ∧
    ∀ callback, Act.call (.callbackSet number callback) ∉ made

namespace Bridge

theorem callback_dismantled (bridge : Bridge) (contents : Slots ω) (number : Nat) :
    ((bridge.dismantle contents).registry number).callback =
      if bridge.registry = number ∧ bridge.ownsCallback contents then none
      else (contents.registry number).callback := by
  have withdrawn : ((bridge.dismantle contents).registry number).callback =
      ((bridge.withdrawCallback contents).registry number).callback := by
    unfold dismantle
    split <;> rfl
  rw [withdrawn, withdrawCallback]
  by_cases owns : bridge.ownsCallback contents
  · by_cases here : bridge.registry = number
    · subst here
      simp [owns, Slots.callback_setCallback_none]
    · simp [owns, here, Slots.callback_setCallback_of_ne (Ne.symm here)]
  · simp [owns]

theorem callbackSet_mem_releases {bridge : Bridge} {contents : Slots ω} {number : Nat}
    {callback : Option Callback}
    (written : Act.call (.callbackSet number callback) ∈ bridge.releases contents) :
    bridge.registry = number ∧ bridge.ownsCallback contents := by
  unfold releases at written
  rcases List.mem_append.mp written with removed | emptied
  · split at removed
    · next owns =>
      have same := List.mem_singleton.mp removed
      cases same
      exact ⟨rfl, owns⟩
    · cases removed
  · split at emptied
    · cases List.mem_singleton.mp emptied
    · cases emptied

end Bridge

/-- What a bridge operation makes of one callback slot. -/
inductive Effect [Memory ω] (s : Client ω) (operation : Operation) (number : Nat)
    (u : Client ω) : Prop where
  | installed (installs : Installs s operation number) (installed : Installed number s u)
  | withdrawn (place : Nat) (withdraws : Withdraws s operation number place)
      (withdrawn : Withdrawn number s u)
  | spared (kept : ¬ Installs s operation number)
      (left : ∀ place, ¬ Withdraws s operation number place) (spared : Spared number s u)

namespace Effect

variable {s : Client ω} {t : Platform ω} {bridges : List (Option Bridge)} {number registry : Nat}

-- A setup withdraws nothing, and installs nothing in another registry's slot.
theorem of_setup [Memory ω] {made : Except Error Bridge} {acts : List Act}
    (answered : (Bridge.setup number s.toPlatform).1 = made)
    (passive : ∀ bridge, made = .ok bridge → registry = number → bridge.state ≠ .installedByUs)
    (told : t.acts = s.acts ++ acts)
    (callback : (t.registry registry).callback = (s.registry registry).callback)
    (quiet : ∀ callback, Act.call (.callbackSet registry callback) ∉ acts) :
    Effect s (.setup number) registry ⟨t, bridges⟩ := by
  refine .spared ?_ ?_ ⟨callback, acts, told, quiet⟩
  · rintro ⟨same, bridge, granted, state⟩
    cases same
    exact passive bridge (answered.symm.trans granted) rfl state
  · rintro place ⟨released⟩
    cases released

theorem of_setUp [Memory ω] {made : Except Error Bridge}
    (answered : (Bridge.setup number s.toPlatform).1 = made)
    (setUp : SetUp number s.toPlatform made t) :
    Effect s (.setup number) registry ⟨t, s.bridges ++ made.toOption.toList.map some⟩ := by
  cases setUp with
  | inert safe =>
    refine of_setup answered ?_ (List.append_nil _).symm rfl nofun
    rintro bridge same -
    cases same
    exact nofun
  | refused cause _ locks told next =>
    refine of_setup answered nofun told.1 ?_ (by simp)
    exact congrArg Registry.callback (registry_of_slots told.2 registry)
  | installed pool _ locks vacant size told next =>
    have contents := congrArg Registry.callback (registry_of_slots told.2 registry)
    by_cases here : registry = number
    · subst here
      refine .installed ⟨rfl, _, answered, rfl⟩ ⟨vacant, ?_, ⟨pool, ?_, ?_⟩, told.1⟩
      · refine contents.trans (Slots.callback_setCallback_self ?_ _)
        exact locks
      · exact pool_of_slots told.2
      · exact (Client.bridge?_append _).trans (if_pos rfl)
    · refine of_setup answered (fun _ _ same => absurd same here) told.1 ?_ (by simp [here])
      exact contents.trans (Slots.callback_setCallback_of_ne here _)
  | deferring pool _ locks taken size told next =>
    refine of_setup answered ?_ told.1 ?_ (by simp)
    · rintro bridge same -
      cases same
      exact nofun
    · exact congrArg Registry.callback (registry_of_slots told.2 registry)

theorem of_released [Memory ω] {operation : Operation} {place : Nat} {bridge : Bridge}
    {rest : Option Bridge}
    (released : operation.released? = some place) (held : s.bridge? place = some bridge)
    (told : Told (s.acts ++ bridge.releases (slots s.toPlatform))
      (bridge.dismantle (slots s.toPlatform)) t) :
    Effect s operation registry ⟨t, s.bridges.set place rest⟩ := by
  have callback := congrArg Registry.callback (registry_of_slots told.2 registry)
  rw [bridge.callback_dismantled] at callback
  by_cases taken : bridge.registry = registry ∧ bridge.ownsCallback (slots s.toPlatform)
  · obtain ⟨rfl, owns⟩ := taken
    have acts : bridge.releases (slots s.toPlatform) =
        [.call (.callbackSet bridge.registry none), .change (.pool none)] := by
      simp [Bridge.releases, owns, owns.2.2]
    refine .withdrawn place ⟨released, ⟨bridge, held, rfl, owns.1⟩, ?_, owns.2.1⟩ ⟨?_, ?_, ?_⟩
    · exact (Client.owns_iff held).mpr owns.2.2
    · simpa [owns] using callback
    · rw [pool_of_slots told.2, pool_dismantled, if_pos owns.2.2]
    · rw [told.1, acts]
  · rw [if_neg taken] at callback
    refine .spared ?_ ?_ ⟨callback, _, told.1, ?_⟩
    · rintro ⟨rfl, -⟩
      cases released
    · rintro other ⟨again, ⟨found, here, number, state⟩, owns, own⟩
      rw [released] at again
      cases again
      rw [held] at here
      cases here
      exact taken ⟨number, state, number ▸ own, (Client.owns_iff held).mp owns⟩
    · exact fun _ written => taken (Bridge.callbackSet_mem_releases written)

end Effect

/-- A bridge operation installs, withdraws or leaves the slot alone. -/
theorem Performed.effect [Memory ω] {s u : Client ω} {operation : Operation}
    (performed : Performed s operation u) (own : operation.isOfBridge = true) (number : Nat) :
    Effect s operation number u := by
  cases performed with
  | setUp answered setUp => exact .of_setUp answered setUp
  | absent released vacant =>
    refine .spared ?_ ?_ ⟨rfl, [], (List.append_nil _).symm, nofun⟩
    · rintro ⟨rfl, -⟩
      cases released
    · rintro other ⟨again, ⟨found, here, -⟩, -⟩
      rw [released] at again
      cases again
      rw [vacant] at here
      cases here
  | released released held left told next => exact .of_released released held told
  | wrote written next => cases own
  | served other => exact absurd own (by simp [other])

theorem Installs.publishes [Memory ω] {s : Client ω} {operation : Operation} {number : Nat}
    (installs : Installs s operation number) : Publishes s number := by
  obtain ⟨-, bridge, granted, state⟩ := installs
  have setUp := Bridge.setUp number s.toPlatform
  rw [granted] at setUp
  exact ⟨(setUp.needed state).2, bridge, granted⟩

theorem Publishes.installs [Memory ω] {s : Client ω} {number : Nat} (publishes : Publishes s number)
    (vacant : (s.registry number).callback = none) : Installs s (.setup number) number := by
  obtain ⟨locks, bridge, granted⟩ := publishes
  have setUp := Bridge.setUp number s.toPlatform
  rw [granted] at setUp
  exact ⟨rfl, bridge, granted, setUp.installedByUs locks vacant⟩

theorem Effect.vacant [Memory ω] {s u : Client ω} {operation : Operation} {number : Nat}
    (effect : Effect s operation number u) (installs : Installs s operation number) :
    (s.registry number).callback = none := by
  cases effect with
  | installed _ installed => exact installed.vacant
  | withdrawn place withdraws withdrawn =>
    obtain ⟨rfl, -⟩ := installs
    cases withdraws.released
  | spared kept left spared => exact absurd installs kept

/-- Operations of others leave a slot alone, but for what they write to it. -/
theorem Performed.callback_of_other [Memory ω] {s u : Client ω} {operation : Operation}
    (performed : Performed s operation u) (other : operation.isOfBridge = false) {number : Nat}
    (elsewhere : ∀ callback, operation ≠ .write number callback) :
    (u.registry number).callback = (s.registry number).callback := by
  cases performed with
  | setUp answered setUp => cases other
  | absent released vacant => rfl
  | released released held left told next =>
    rw [Operation.isOfBridge_of_released released] at other
    cases other
  | @wrote written callback now slot next =>
    refine (congrArg Registry.callback (registry_of_slots slot number)).trans ?_
    refine Slots.callback_setCallback_of_ne ?_ callback
    rintro rfl
    exact elsewhere callback rfl
  | served own alike next => exact alike.callback number

/-! Which teardown is the first. -/

/-- The bridge in a place was torn down once before. -/
def TornDown [Memory ω] (s : Client ω) (operations : List Operation) (place : Nat) : Prop :=
  ∃ earlier operation later, operations = earlier ++ operation :: later ∧
    operation.released? = some place ∧ (after earlier s).bridge? place ≠ none

/-- There was a bridge in a place, and none is left there that has installed a callback. -/
structure Spent (s : Client ω) (place : Nat) : Prop where
  used : place < s.place
  state : ∀ bridge, s.bridge? place = some bridge → bridge.state ≠ .installedByUs

theorem Performed.spent [Memory ω] {s u : Client ω} {operation : Operation} {place : Nat}
    (performed : Performed s operation u)
    (spent : Spent s place ∨ operation.released? = some place ∧ s.bridge? place ≠ none) :
    Spent u place := by
  have used : place < s.place := by
    rcases spent with spent | ⟨-, present⟩
    · exact spent.used
    · obtain ⟨bridge, held⟩ := Option.ne_none_iff_exists'.mp present
      exact Client.lt_of_bridge? held
  constructor
  · exact Nat.lt_of_lt_of_le used performed.place_le
  · intro bridge held
    rcases performed.origin held with ⟨same, kept⟩ | ⟨new, -⟩ | ⟨old, -, rfl⟩
    · rcases spent with spent | ⟨released, -⟩
      · exact spent.state bridge same
      · exact absurd released kept
    · exact absurd new (Nat.ne_of_lt used)
    · exact old.tornDown_state

theorem Spent.after [Memory ω] {s : Client ω} {place : Nat} (spent : Spent s place)
    (operations : List Operation) : Spent (Locking.after operations s) place := by
  induction operations generalizing s with
  | nil => exact spent
  | cons operation rest ih => exact ih ((performed s operation).spent (.inl spent))

theorem TornDown.spent [Memory ω] {s : Client ω} {operations : List Operation} {place : Nat}
    (tornDown : TornDown s operations place) : Spent (after operations s) place := by
  obtain ⟨earlier, operation, later, rfl, released, present⟩ := tornDown
  rw [after_append]
  have first := (performed (after earlier s) operation).spent (.inr ⟨released, present⟩)
  exact first.after later

/-- A bridge with an installed callback serves a library that needs one. -/
theorem needed_of_installed [Memory ω] {s : Client ω} (untouched : Untouched s)
    (operations : List Operation) {place : Nat} {bridge : Bridge}
    (held : (after operations s).bridge? place = some bridge)
    (state : bridge.state = .installedByUs) :
    (s.registry bridge.registry).threadSafe = false := by
  induction operations using List.reverseRecOn generalizing place bridge with
  | nil =>
    have nobody : s.bridge? place = none := by simp [Client.bridge?, untouched.bridges]
    cases nobody.symm.trans held
  | append_singleton operations last ih =>
    rw [after_snoc] at held
    rcases (performed _ last).origin held with ⟨same, -⟩ | ⟨-, number, rfl, granted⟩ | ⟨old, -, rfl⟩
    · exact ih same state
    · have setUp := Bridge.setUp number (after operations s).toPlatform
      rw [granted] at setUp
      obtain ⟨rfl, locks⟩ := setUp.needed state
      exact (threadSafe_after operations s _).symm.trans locks
    · exact absurd state old.tornDown_state

section

variable {s : Client ω} {operations : List Operation} {last : Operation} {number : Nat}

theorem Withdraws.first [Memory ω] {place : Nat}
    (withdraws : Withdraws (after operations s) last number place) :
    ¬ TornDown s operations place := by
  obtain ⟨bridge, held, -, state⟩ := withdraws.bridge
  exact fun tornDown => tornDown.spent.state bridge held state

theorem Effect.needed [Memory ω] (untouched : Untouched s) {u : Client ω}
    (effect : Effect (after operations s) last number u) :
    Spared number (after operations s) u ∨ (s.registry number).threadSafe = false := by
  cases effect with
  | installed installs installed =>
    exact .inr ((threadSafe_after operations s number).symm.trans installs.publishes.1)
  | withdrawn place withdraws withdrawn =>
    obtain ⟨bridge, held, rfl, state⟩ := withdraws.bridge
    exact .inr (needed_of_installed untouched operations held state)
  | spared kept left spared => exact .inl spared

theorem Effect.spared_of_error [Memory ω] {u : Client ω} {other : Nat} {cause : Error}
    (effect : Effect (after operations s) (.setup other) number u)
    (failed : (Bridge.setup other (after operations s).toPlatform).1 = .error cause) :
    Spared number (after operations s) u := by
  cases effect with
  | installed installs installed =>
    obtain ⟨same, bridge, granted, -⟩ := installs
    cases same
    rw [failed] at granted
    cases granted
  | withdrawn place withdraws withdrawn => cases withdraws.released
  | spared kept left spared => exact spared

theorem Effect.spared_of_tornDown [Memory ω] {u : Client ω} {place : Nat}
    (effect : Effect (after operations s) last number u) (released : last.released? = some place)
    (again : TornDown s operations place) : Spared number (after operations s) u := by
  cases effect with
  | installed installs installed =>
    obtain ⟨rfl, -⟩ := installs
    cases released
  | withdrawn other withdraws withdrawn =>
    have same := withdraws.released
    rw [released] at same
    cases same
    exact absurd again withdraws.first
  | spared kept left spared => exact spared

theorem Effect.spared_of_foreign [Memory ω] {u : Client ω} {owner : Nat}
    (effect : Effect (after operations s) last number u)
    (foreign : ((after operations s).registry number).callback = some (.foreign owner)) :
    Spared number (after operations s) u := by
  cases effect with
  | installed installs installed =>
    rw [installed.vacant] at foreign
    cases foreign
  | withdrawn place withdraws withdrawn =>
    rw [withdraws.callback] at foreign
    cases foreign
  | spared kept left spared => exact spared

/-- Whatever is done with bridges, and whatever other components write in between: a bridge
operation fills an empty slot, in a setup that ends with its callback installed and once its pool is
published; or it empties a slot that holds its own callback, in the first teardown of a bridge with
an installed callback and a pool that is still the published one; or it does not write to the slot.
So it does in a setup that fails, in a teardown repeated, for a library that needs no callback and
on the callback of another component. -/
theorem slot_changes_hands [Memory ω] (s : Client ω) (untouched : Untouched s)
    (operations : List Operation) (last : Operation) (own : last.isOfBridge = true)
    (number : Nat) :
    Effect (after operations s) last number (after (operations ++ [last]) s) ∧
    (∀ place, Withdraws (after operations s) last number place →
      ¬ TornDown s operations place) ∧
    ((s.registry number).threadSafe = true ∨
      (∃ owner, ((after operations s).registry number).callback = some (.foreign owner)) ∨
      (∃ other cause, last = .setup other ∧
        (Bridge.setup other (after operations s).toPlatform).1 = .error cause) ∨
      (∃ place, last.released? = some place ∧ TornDown s operations place) →
      Spared number (after operations s) (after (operations ++ [last]) s)) := by
  have effect := (performed (after operations s) last).effect own number
  rw [after_snoc]
  constructor
  · exact effect
  constructor
  · exact fun place withdraws => withdraws.first
  · rintro (safe | ⟨owner, foreign⟩ | ⟨other, cause, rfl, failed⟩ | ⟨place, released, again⟩)
    · rcases effect.needed untouched with spared | needed
      · exact spared
      · rw [safe] at needed
        cases needed
    · exact effect.spared_of_foreign foreign
    · exact effect.spared_of_error failed
    · exact effect.spared_of_tornDown released again

-- The callback of a bridge is replaced by another component's, which the teardown leaves.
theorem slot_changes_hands_replaced :
    Untouched Client.single ∧ (Operation.teardown 0).isOfBridge = true ∧
      Spared 0 (after [.setup 0, .write 0 (some (.foreign 7))] Client.single)
        (after ([.setup 0, .write 0 (some (.foreign 7))] ++ [.teardown 0]) Client.single) :=
  ⟨⟨rfl, rfl⟩, rfl, (slot_changes_hands Client.single ⟨rfl, rfl⟩
    [.setup 0, .write 0 (some (.foreign 7))] (.teardown 0) rfl 0).2.2 (.inr (.inl ⟨7, rfl⟩))⟩

end

end CryptoProvider.Locking
