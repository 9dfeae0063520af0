import CryptoProvider.Proofs.Ledger.Accounts

/-!
Shared objects on a shelf: each has a place, which is its number, and a count of those who hold
it. The count is that of the owners and of the operations in flight together; an object that
nobody holds any more is not on the books.
-/

set_option autoImplicit false

namespace CryptoProvider.Factory

open Ledger

/-- What shared objects are on the books, and how many hold each of them. -/
abbrev Shelf : Type := List (Entry × Nat)

/-- An operation in flight: the place of the object it holds, and what that is on the books. -/
abbrev Flight : Type := Nat × Entry

namespace Shelf

def held (shelf : Shelf) : List Entry :=
  shelf.filterMap fun (entry, holders) => if holders = 0 then none else some entry

def setHolders (shelf : Shelf) (place holders : Nat) : Shelf :=
  shelf.modify place fun object => (object.1, holders)

/-- The counts are those of some owners and some operations in flight. -/
structure Counted (shelf : Shelf) (owners : List Nat) (flights : List Flight) : Prop where
  holders : ∀ place,
    (shelf[place]?.map Prod.snd).getD 0 = owners.count place + (flights.map Prod.fst).count place
  entries : ∀ flight ∈ flights, shelf[flight.1]?.map Prod.fst = some flight.2

theorem held_append (first second : Shelf) : held (first ++ second) = first.held ++ second.held :=
  List.filterMap_append

theorem held_push (shelf : Shelf) (entry : Entry) :
    held (shelf ++ [(entry, 1)]) = shelf.held ++ [entry] :=
  held_append shelf [(entry, 1)]

-- A place in a shelf, with what stands before and after it.
theorem split_at {shelf : Shelf} {place : Nat} {object : Entry × Nat}
    (found : shelf[place]? = some object) :
    ∃ before after, shelf = before ++ object :: after ∧
      ∀ holders, shelf.setHolders place holders = before ++ (object.1, holders) :: after := by
  obtain ⟨bound, get⟩ := List.getElem?_eq_some_iff.mp found
  refine ⟨shelf.take place, shelf.drop (place + 1), ?_, fun holders => ?_⟩
  · rw [← get, List.getElem_cons_drop, List.take_append_drop]
  · rw [setHolders, List.modify_eq_take_cons_drop bound, get]

theorem held_setHolders {shelf : Shelf} {place first second : Nat} {entry : Entry}
    (found : shelf[place]? = some (entry, first)) (held : first ≠ 0) (still : second ≠ 0) :
    (shelf.setHolders place second).held = shelf.held := by
  obtain ⟨before, after, parts, changed⟩ := split_at found
  rw [changed, parts, held_append, held_append]
  simp [Shelf.held, held, still]

theorem held_setHolders_zero {shelf : Shelf} {place holders : Nat} {entry : Entry}
    (found : shelf[place]? = some (entry, holders)) (held : holders ≠ 0) :
    shelf.held.Perm (entry :: (shelf.setHolders place 0).held) := by
  obtain ⟨before, after, parts, changed⟩ := split_at found
  rw [changed, parts, held_append, held_append]
  simp [Shelf.held, held]

namespace Counted

variable {shelf : Shelf} {owners : List Nat} {flights : List Flight}

theorem held_eq_nil (counted : Counted shelf [] []) : shelf.held = [] := by
  refine List.filterMap_eq_nil_iff.mpr fun object member => ?_
  obtain ⟨place, found⟩ := List.mem_iff_getElem?.mp member
  have none := counted.holders place
  rw [found] at none
  simpa using none

theorem perm {other : List Flight} (counted : Counted shelf owners flights)
    (same : flights.Perm other) : Counted shelf owners other where
  holders place := by rw [counted.holders, (same.map Prod.fst).count_eq]
  entries flight member := counted.entries flight (same.mem_iff.mpr member)

theorem found {place : Nat} (counted : Counted shelf owners flights)
    (holds : 0 < owners.count place + (flights.map Prod.fst).count place) :
    ∃ entry holders, shelf[place]? = some (entry, holders) ∧
      holders = owners.count place + (flights.map Prod.fst).count place := by
  have count := counted.holders place
  cases found : shelf[place]? with
  | none =>
    rw [found] at count
    simp only [Option.map_none, Option.getD_none] at count
    omega
  | some object =>
    rw [found] at count
    exact ⟨object.1, object.2, rfl, count⟩

theorem mem_held {flight : Flight} (counted : Counted shelf owners flights)
    (member : flight ∈ flights) : flight.2 ∈ shelf.held := by
  have positive : 0 < (flights.map Prod.fst).count flight.1 :=
    List.count_pos_iff.mpr (List.mem_map_of_mem member)
  obtain ⟨entry, holders, found, count⟩ := counted.found (Nat.add_pos_right _ positive)
  have stands := counted.entries flight member
  rw [found] at stands
  obtain rfl := Option.some.inj stands
  refine List.mem_filterMap.mpr ⟨_, List.mem_of_getElem? found, if_neg ?_⟩
  omega

theorem holders_setHolders {place holders : Nat} {entry : Entry} {old : Nat}
    (found : shelf[place]? = some (entry, old)) (other : Nat) :
    ((shelf.setHolders place holders)[other]?.map Prod.snd).getD 0 =
      if other = place then holders else (shelf[other]?.map Prod.snd).getD 0 := by
  by_cases same : other = place
  · subst same
    simp [setHolders, found]
  · simp [setHolders, List.getElem?_modify_ne _ _ (Ne.symm same), same]

theorem entries_setHolders (place holders other : Nat) :
    (shelf.setHolders place holders)[other]?.map Prod.fst = shelf[other]?.map Prod.fst := by
  rw [setHolders, List.getElem?_modify]
  cases shelf[other]? with
  | none => rfl
  | some object => split <;> rfl

-- An operation takes hold of an object that somebody holds.
theorem acquire {place holders : Nat} {entry : Entry} (counted : Counted shelf owners flights)
    (found : shelf[place]? = some (entry, holders)) :
    Counted (shelf.setHolders place (holders + 1)) owners ((place, entry) :: flights) where
  holders other := by
    have count := counted.holders other
    rw [holders_setHolders found, List.map_cons, List.count_cons]
    by_cases same : other = place
    · subst same
      rw [found] at count
      simp only [Option.map_some, Option.getD_some] at count
      simp [count, Nat.add_assoc]
    · simp [same, Ne.symm same, count]
  entries flight member := by
    rw [entries_setHolders]
    rcases List.mem_cons.mp member with rfl | later
    · simp [found]
    · exact counted.entries flight later

-- An operation lets go of the object it holds; it leaves the shelf if nobody else holds it.
theorem release {place : Nat} {entry : Entry}
    (counted : Counted shelf owners ((place, entry) :: flights)) :
    ∃ holders, shelf[place]? = some (entry, holders + 1) ∧
      Counted (shelf.setHolders place holders) owners flights ∧
      shelf.held.Perm
        ((if holders = 0 then [entry] else []) ++ (shelf.setHolders place holders).held) := by
  have count := counted.holders place
  have stands := counted.entries (place, entry) List.mem_cons_self
  obtain ⟨object, found, rfl⟩ := Option.map_eq_some_iff.mp stands
  obtain ⟨entry, total⟩ := object
  rw [found, List.map_cons, List.count_cons_self, ← Nat.add_assoc] at count
  change total = _ at count
  subst count
  refine ⟨owners.count place + (flights.map Prod.fst).count place, found, ⟨?_, ?_⟩, ?_⟩
  · intro other
    rw [holders_setHolders found]
    by_cases same : other = place
    · rw [if_pos same, same]
    · rw [if_neg same, counted.holders other, List.map_cons,
        List.count_cons_of_ne (Ne.symm same)]
  · intro flight member
    rw [entries_setHolders]
    exact counted.entries flight (List.mem_cons_of_mem _ member)
  · split
    case isTrue last =>
      rw [last]
      exact held_setHolders_zero found (by omega)
    case isFalse more =>
      rw [held_setHolders found (by omega) more]
      exact List.Perm.refl _

theorem push (counted : Counted shelf owners flights) (entry : Entry) :
    Counted (shelf ++ [(entry, 1)]) owners ((shelf.length, entry) :: flights) where
  holders place := by
    have count := counted.holders place
    rw [List.map_cons, List.count_cons]
    -- The new place has no owner yet: it was beyond the shelf.
    rcases Nat.lt_trichotomy place shelf.length with before | rfl | after
    · rw [List.getElem?_append_left before, count]
      simp [Nat.ne_of_gt before]
    · rw [List.getElem?_eq_none (Nat.le_refl _)] at count
      simp only [Option.map_none, Option.getD_none] at count
      simp
      omega
    · have beyond : (shelf ++ [(entry, 1)]).length ≤ place := by
        rw [List.length_append]
        exact after
      rw [List.getElem?_eq_none beyond]
      rw [List.getElem?_eq_none (Nat.le_of_lt after)] at count
      simpa [Nat.ne_of_lt after] using count
  entries flight member := by
    rcases List.mem_cons.mp member with rfl | later
    · simp
    · have stands := counted.entries flight later
      have bound : flight.1 < shelf.length := by
        refine Nat.lt_of_not_le fun beyond => ?_
        rw [List.getElem?_eq_none beyond] at stands
        cases stands
      rw [List.getElem?_append_left bound, stands]

-- An operation's object goes over to an owner.
theorem hand_over {place : Nat} {entry : Entry}
    (counted : Counted shelf owners ((place, entry) :: flights)) :
    Counted shelf (place :: owners) flights where
  holders other := by
    rw [counted.holders other, List.map_cons, List.count_cons, List.count_cons]
    dsimp only
    omega
  entries flight member := counted.entries flight (List.mem_cons_of_mem _ member)

theorem take_over {place : Nat} (counted : Counted shelf (place :: owners) flights) :
    ∃ entry, Counted shelf owners ((place, entry) :: flights) := by
  have positive : 0 < (place :: owners).count place + (flights.map Prod.fst).count place := by
    rw [List.count_cons_self]
    omega
  obtain ⟨entry, holders, found, _⟩ := counted.found positive
  refine ⟨entry, fun other => ?_, fun flight member => ?_⟩
  · rw [counted.holders other, List.map_cons, List.count_cons, List.count_cons]
    dsimp only
    omega
  · rcases List.mem_cons.mp member with rfl | later
    · simp [found]
    · exact counted.entries flight later

end Counted

end Shelf

end CryptoProvider.Factory
