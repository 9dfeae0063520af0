import CryptoProvider.Proofs.Ledger.Life
import CryptoProvider.Proofs.Triple

/-!
Accounts: the things that somebody still holds, each with its phase. Everything else is settled. A
piece of code is accounted for by what it takes from the accounts and what it adds to them,
whatever else is held meanwhile; so its statement frames all that it does not touch.
-/

set_option autoImplicit false

namespace CryptoProvider.Ledger

variable {ω : Type}

/-- The number of a thing and its phase. -/
abbrev Entry : Type := Nat × Phase

def numbers (held : List Entry) : List Nat :=
  held.map Prod.fst

/-- What is held is as the entries say, and all the rest is settled. -/
structure Accounts (held : List Entry) (s : Platform ω) : Prop where
  distinct : (numbers held).Nodup
  issued : ∀ number ∈ numbers held, number < s.next
  lived : ∀ entry ∈ held, entry.2.Lived entry.1 (s.life entry.1)
  settled : ∀ number, number ∉ numbers held → Settled number (s.life number)
  unused : ∀ number, s.next ≤ number → s.life number = []

structure Slots (ω : Type) where
  transport : Option (Transport.Loaded ω)
  pool : Option Locking.Published
  registries : List Locking.Registry

def slots (s : Platform ω) : Slots ω :=
  ⟨s.transport, s.pool, s.registries⟩

theorem transport_of_slots {s : Platform ω} {contents : Slots ω} (known : slots s = contents) :
    s.transport = contents.transport := by
  rw [← known]
  rfl

theorem pool_of_slots {s : Platform ω} {contents : Slots ω} (known : slots s = contents) :
    s.pool = contents.pool := by
  rw [← known]
  rfl

theorem Slots.emptyTransport {contents : Slots ω} (empty : contents.transport = none) :
    { contents with transport := none } = contents := by
  rw [← empty]

/-- The accounts, and the contents of the shared slots. -/
def Books (held : List Entry) (contents : Slots ω) (s : Platform ω) : Prop :=
  Accounts held s ∧ slots s = contents

section

variable {held rest : List Entry} {s : Platform ω}

theorem life_record (reported : Bool) (call : Call) (number : Nat) :
    (Platform.record reported call s).2.life number =
      s.life number ++ if number ∈ call.subjects then [call] else [] := by
  change (Platform.calls { s with trace := .call reported call :: s.trace }).filter _ = _
  simp only [Platform.life, Platform.calls, Platform.events, List.reverse_cons,
    List.filterMap_append, List.filter_append]
  congr 1
  by_cases about : number ∈ call.subjects <;> simp [Event.call?, about]

theorem life_of_calls {other : Platform ω} (same : other.calls = s.calls) (number : Nat) :
    other.life number = s.life number := by
  rw [Platform.life, same, Platform.life]

theorem calls_push {event : Event} (silent : event.call? = none) :
    Platform.calls { s with trace := event :: s.trace } = s.calls := by
  simp [Platform.calls, Platform.events, silent]

/-- Entries of which the lives are over. -/
def frozen (held : List Entry) (s : Platform ω) : List Entry :=
  held.map fun entry => (entry.1, .retired (s.life entry.1))

theorem numbers_frozen (held : List Entry) (s : Platform ω) :
    numbers (frozen held s) = numbers held := by
  simp [numbers, frozen]

namespace Accounts

theorem clean (outside : ω) : Accounts [] (Platform.clean outside) where
  distinct := List.nodup_nil
  issued := by simp [numbers]
  lived := by simp
  settled _ _ := .unused
  unused _ _ := rfl

-- The accounts look at the calls and at the next number only.
theorem transfer {other : Platform ω} (accounts : Accounts held s) (calls : other.calls = s.calls)
    (next : other.next = s.next) : Accounts held other where
  distinct := accounts.distinct
  issued number member := next ▸ accounts.issued number member
  lived entry member := by
    rw [life_of_calls calls]
    exact accounts.lived entry member
  settled number absent := by
    rw [life_of_calls calls]
    exact accounts.settled number absent
  unused number late := by
    rw [life_of_calls calls]
    exact accounts.unused number (next ▸ late)

theorem perm {other : List Entry} (accounts : Accounts held s) (same : held.Perm other) :
    Accounts other s where
  distinct := (same.map Prod.fst).nodup_iff.mp accounts.distinct
  issued number member :=
    accounts.issued number ((same.map Prod.fst).mem_iff.mpr member)
  lived entry member := accounts.lived entry (same.mem_iff.mpr member)
  settled number absent :=
    accounts.settled number fun member => absent ((same.map Prod.fst).mem_iff.mp member)
  unused := accounts.unused

theorem revise {number : Nat} {first second : Phase}
    (accounts : Accounts ((number, first) :: rest) s)
    (implies : ∀ life, first.Lived number life → second.Lived number life) :
    Accounts ((number, second) :: rest) s where
  distinct := accounts.distinct
  issued := accounts.issued
  lived entry member := by
    rcases List.mem_cons.mp member with rfl | later
    · exact implies _ (accounts.lived (number, first) List.mem_cons_self)
    · exact accounts.lived entry (List.mem_cons_of_mem _ later)
  settled := accounts.settled
  unused := accounts.unused

theorem discharge {number : Nat} (accounts : Accounts ((number, .settled) :: rest) s) :
    Accounts rest s where
  distinct := (List.nodup_cons.mp accounts.distinct).2
  issued other member := accounts.issued other (List.mem_cons_of_mem _ member)
  lived entry member := accounts.lived entry (List.mem_cons_of_mem _ member)
  settled other absent := by
    -- The thing leaves the entries, so its life has to be settled by itself.
    by_cases same : other = number
    · subst same
      exact accounts.lived (other, .settled) List.mem_cons_self
    · exact accounts.settled other fun member =>
        (List.mem_cons.mp member).elim same absent
  unused := accounts.unused

-- A number that is not held may be, as one to which nothing happens any more.
theorem retire {number : Nat} (accounts : Accounts held s) (absent : number ∉ numbers held)
    (issued : number < s.next) : Accounts ((number, .retired (s.life number)) :: held) s where
  distinct := List.nodup_cons.mpr ⟨absent, accounts.distinct⟩
  issued other member := by
    rcases List.mem_cons.mp member with rfl | later
    · exact issued
    · exact accounts.issued other later
  lived entry member := by
    rcases List.mem_cons.mp member with rfl | later
    · exact rfl
    · exact accounts.lived entry later
  settled other missing :=
    accounts.settled other fun member => missing (List.mem_cons_of_mem _ member)
  unused := accounts.unused

-- What is held may be kept as it is, as things to which nothing happens any more.
theorem freeze (accounts : Accounts held s) : Accounts (frozen held s) s where
  distinct := numbers_frozen held s ▸ accounts.distinct
  issued := numbers_frozen held s ▸ accounts.issued
  lived entry member := by
    obtain ⟨_, -, rfl⟩ := List.mem_map.mp member
    exact rfl
  settled := numbers_frozen held s ▸ accounts.settled
  unused := accounts.unused

theorem fresh (accounts : Accounts held s) :
    Accounts ((s.next, .unused) :: held) (Platform.fresh s).2 where
  distinct := List.nodup_cons.mpr
    ⟨fun member => Nat.lt_irrefl _ (accounts.issued s.next member), accounts.distinct⟩
  issued other member := by
    rcases List.mem_cons.mp member with rfl | later
    · exact Nat.lt_succ_self _
    · exact Nat.lt_succ_of_lt (accounts.issued other later)
  lived entry member := by
    rcases List.mem_cons.mp member with rfl | later
    · exact accounts.unused s.next (Nat.le_refl _)
    · exact accounts.lived entry later
  settled other missing :=
    accounts.settled other fun member => missing (List.mem_cons_of_mem _ member)
  unused other late := accounts.unused other (Nat.le_of_succ_le late)

-- A call takes the entries it is about to other phases, and leaves the others as they are.
theorem record (taken given : List Entry) {reported : Bool} {call : Call}
    (accounts : Accounts (taken ++ rest) s) (about : call.subjects = numbers taken)
    (same : numbers given = numbers taken)
    (leads : ∀ entry ∈ given,
      ∃ phase, (entry.1, phase) ∈ taken ∧ Leads entry.1 call phase entry.2) :
    Accounts (given ++ rest) (Platform.record reported call s).2 := by
  -- A number is among those taken, is held besides, or is not held at all. The call is about the
  -- first kind only, so no other life grows.
  have numbered : numbers (given ++ rest) = numbers (taken ++ rest) := by
    simpa [numbers] using same
  have touched : ∀ number ∈ numbers taken,
      (Platform.record reported call s).2.life number = s.life number ++ [call] := by
    intro number member
    rw [life_record, about, if_pos member]
  have untouched : ∀ number, number ∉ numbers taken →
      (Platform.record reported call s).2.life number = s.life number := by
    intro number absent
    rw [life_record, about, if_neg absent, List.append_nil]
  have inside : ∀ number ∈ numbers taken, number ∈ numbers (taken ++ rest) := by
    intro number member
    rw [numbers, List.map_append]
    exact List.mem_append_left _ member
  refine ⟨numbered ▸ accounts.distinct, fun number member => ?_, fun entry member => ?_,
    fun number absent => ?_, fun number late => ?_⟩
  · exact accounts.issued number (numbered ▸ member)
  · rcases List.mem_append.mp member with changed | kept
    · obtain ⟨phase, held, step⟩ := leads entry changed
      rw [touched _ (List.mem_map_of_mem held)]
      exact step _ (accounts.lived (entry.1, phase) (List.mem_append_left _ held))
    · have disjoint := accounts.distinct
      rw [numbers, List.map_append, List.nodup_append] at disjoint
      have absent : entry.1 ∉ numbers taken := fun member =>
        disjoint.2.2 _ member _ (List.mem_map_of_mem kept) rfl
      rw [untouched _ absent]
      exact accounts.lived entry (List.mem_append_right _ kept)
  · rw [numbered] at absent
    rw [untouched _ fun member => absent (inside _ member)]
    exact accounts.settled number absent
  · have absent : number ∉ numbers taken := fun member =>
      Nat.lt_irrefl _ (Nat.lt_of_lt_of_le (accounts.issued number (inside _ member)) late)
    rw [untouched _ absent]
    exact accounts.unused number late

end Accounts

end

namespace Books

variable {held rest : List Entry} {contents : Slots ω}

theorem perm {other : List Entry} {s : Platform ω} (books : Books held contents s)
    (same : held.Perm other) : Books other contents s :=
  ⟨books.1.perm same, books.2⟩

theorem revise {number : Nat} {first second : Phase} {s : Platform ω}
    (books : Books ((number, first) :: rest) contents s)
    (implies : ∀ life, first.Lived number life → second.Lived number life) :
    Books ((number, second) :: rest) contents s :=
  ⟨books.1.revise implies, books.2⟩

theorem discharge {number : Nat} {s : Platform ω}
    (books : Books ((number, .settled) :: rest) contents s) : Books rest contents s :=
  ⟨books.1.discharge, books.2⟩

theorem fresh :
    Ensures (Books held contents) Platform.fresh fun number =>
      Books ((number, .unused) :: held) contents :=
  fun _ books => ⟨books.1.fresh, books.2⟩

theorem consult {α : Type} {answer : StateM ω α} :
    Ensures (Books held contents) (Platform.consult answer) fun _ => Books held contents :=
  fun _ books => ⟨books.1.transfer rfl rfl, books.2⟩

theorem get :
    Ensures (Books held contents) MonadState.get fun value s =>
      slots value = contents ∧ Books held contents s :=
  fun _ books => ⟨books.2, books⟩

theorem note {notice : Notice} :
    Ensures (Books held contents) (Platform.note notice) fun _ => Books held contents :=
  fun _ books => ⟨books.1.transfer (calls_push rfl) rfl, books.2⟩

theorem setTransport {loaded : Option (Transport.Loaded ω)} :
    Ensures (Books held contents) (Platform.setTransport loaded) fun _ =>
      Books held { contents with transport := loaded } := by
  rintro s ⟨accounts, rfl⟩
  exact ⟨accounts.transfer (calls_push rfl) rfl, rfl⟩

theorem update {change : Platform ω → Platform ω} {after : Slots ω}
    (calls : ∀ s, (change s).calls = s.calls) (next : ∀ s, (change s).next = s.next)
    (changes : ∀ s, slots s = contents → slots (change s) = after) :
    Ensures (Books held contents) (modify change) fun _ => Books held after :=
  fun s books => ⟨books.1.transfer (calls s) (next s), changes s books.2⟩

theorem setPool {pool : Option Locking.Published} :
    Ensures (Books held contents) (Platform.setPool pool) fun _ =>
      Books held { contents with pool } := by
  rintro s ⟨accounts, rfl⟩
  exact ⟨accounts.transfer (calls_push rfl) rfl, rfl⟩

theorem writeCallback {number : Nat} {callback : Option Locking.Callback} :
    Ensures (Books held contents) (Platform.writeCallback number callback) fun _ =>
      Books held
        { contents with
          registries := contents.registries.modify number fun r => { r with callback } } := by
  rintro s ⟨accounts, rfl⟩
  exact ⟨accounts.transfer rfl rfl, rfl⟩

theorem record_none {reported : Bool} {call : Call} (nobody : call.subjects = []) :
    Ensures (Books held contents) (Platform.record reported call) fun _ => Books held contents :=
  fun _ books => ⟨books.1.record [] [] nobody rfl (by simp), books.2⟩

theorem record_one {reported : Bool} {call : Call} {number : Nat} {first second : Phase}
    (leads : Leads number call first second) (about : call.subjects = [number]) :
    Ensures (Books ((number, first) :: rest) contents) (Platform.record reported call) fun _ =>
      Books ((number, second) :: rest) contents :=
  fun _ books =>
    ⟨books.1.record [(number, first)] [(number, second)] about rfl (by simpa using leads), books.2⟩

theorem record_two {reported : Bool} {call : Call} {number other : Nat}
    {first second otherFirst otherSecond : Phase} (leads : Leads number call first second)
    (otherLeads : Leads other call otherFirst otherSecond)
    (about : call.subjects = [number, other]) :
    Ensures (Books ((number, first) :: (other, otherFirst) :: rest) contents)
      (Platform.record reported call) fun _ =>
        Books ((number, second) :: (other, otherSecond) :: rest) contents := by
  refine fun _ books => ⟨books.1.record [(number, first), (other, otherFirst)]
    [(number, second), (other, otherSecond)] about rfl ?_, books.2⟩
  intro entry member
  rcases List.mem_cons.mp member with rfl | later
  · exact ⟨first, List.mem_cons_self, leads⟩
  · obtain rfl := List.mem_singleton.mp later
    exact ⟨otherFirst, List.mem_cons_of_mem _ List.mem_cons_self, otherLeads⟩

end Books

end CryptoProvider.Ledger
