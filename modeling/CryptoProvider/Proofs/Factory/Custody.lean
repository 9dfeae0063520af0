import CryptoProvider.Factory.Lifecycle
import CryptoProvider.Proofs.Factory.Shelf
import CryptoProvider.Proofs.Ledger.Engine
import CryptoProvider.Proofs.Ledger.Hardware

/-!
Who holds what in the process. The live instance holds its parts, and shares its suite and its
generator with the operations in flight on them; the rest is in hand, with code that is building
an instance or taking one down. Every step of the factory keeps these accounts.
-/

set_option autoImplicit false

namespace CryptoProvider.Factory

open Ledger

variable {ω : Type}

def SharedSuite.view (shared : SharedSuite ω) : Entry × Nat :=
  (shared.suite.handle.entry, shared.holders)

def SharedGenerator.view (shared : SharedGenerator ω) : Entry × Nat :=
  ((shared.number, .generatorMade), shared.holders)

def suiteShelf (s : Process ω) : Shelf :=
  s.suites.map SharedSuite.view

def generatorShelf (s : Process ω) : Shelf :=
  s.generators.map SharedGenerator.view

def live? (s : Process ω) : Option (Subsystems ω) :=
  s.current.bind (subsystems? s)

namespace Subsystems

/-- What an instance holds by itself; its suite and its generator are shared. -/
def entries (owned : Subsystems ω) : List Entry :=
  (owned.hardware.map Command.Hardware.entries).getD [] ++
    (owned.hardwareRandom.map fun random => random.handle.entry).toList

structure Whole (owned : Subsystems ω) : Prop where
  hardware : ∀ hardware, owned.hardware = some hardware → hardware.Whole
  random : ∀ random, owned.hardwareRandom = some random → random.handle.started = true
  bridge : ∀ bridge, owned.lockBridge = some bridge →
    (bridge.share = none ↔ bridge.state = .notInstalled)

end Subsystems

/-- Which instance is live, and what code in the midst of its work holds: shared objects, and
things of its own. -/
structure Custody (ω : Type) where
  current : Option Nat
  owned : Option (Subsystems ω)
  instances : Nat
  suites : List Flight
  generators : List Flight
  entries : List Entry

namespace Custody

def addSuite (hand : Custody ω) (flight : Flight) : Custody ω :=
  { hand with suites := flight :: hand.suites }

def addGenerator (hand : Custody ω) (flight : Flight) : Custody ω :=
  { hand with generators := flight :: hand.generators }

def addEntries (hand : Custody ω) (entries : List Entry) : Custody ω :=
  { hand with entries := entries ++ hand.entries }

end Custody

/-- The shared objects are counted right, and at most the current instance is live and whole. -/
structure Standing (hand : Custody ω) (s : Process ω) : Prop where
  suites : (suiteShelf s).Counted ((live? s).bind Subsystems.suite).toList hand.suites
  generators :
    (generatorShelf s).Counted ((live? s).bind Subsystems.generator).toList hand.generators
  live : ∀ number, (subsystems? s number).isSome ↔ s.current = some number
  whole : ∀ owned, live? s = some owned → owned.Whole
  started : ∀ shared ∈ s.suites, shared.suite.handle.started = true
  current : s.current = hand.current
  owned : live? s = hand.owned
  instances : s.instances.length = hand.instances

/-- What the process holds on its shelves and in its live instance. -/
def stock (s : Process ω) : List Entry :=
  (suiteShelf s).held ++ ((generatorShelf s).held ++ ((live? s).map Subsystems.entries).getD [])

/-- The custody is in order, and the books agree with it. -/
def Sound (hand : Custody ω) (contents : Slots ω) (s : Process ω) : Prop :=
  Standing hand s ∧ Books (stock s ++ hand.entries) contents s.toPlatform

section

variable {hand : Custody ω} {contents : Slots ω}

theorem Standing.onPlatform {s : Process ω} (standing : Standing hand s) (platform : Platform ω) :
    Standing hand { s with toPlatform := platform } :=
  ⟨standing.suites, standing.generators, standing.live, standing.whole, standing.started,
    standing.current, standing.owned, standing.instances⟩

theorem Standing.addEntries {entries : List Entry} {s : Process ω} :
    Standing (hand.addEntries entries) s ↔ Standing hand s :=
  ⟨fun standing =>
      ⟨standing.suites, standing.generators, standing.live, standing.whole, standing.started,
        standing.current, standing.owned, standing.instances⟩,
    fun standing =>
      ⟨standing.suites, standing.generators, standing.live, standing.whole, standing.started,
        standing.current, standing.owned, standing.instances⟩⟩

namespace Sound

theorem lift {α : Type} {operation : StateM (Platform ω) α} {after : α → Process ω → Prop}
    (spec : ∀ s, Standing hand s → Ensures (Books (stock s ++ hand.entries) contents) operation
      fun value platform => after value { s with toPlatform := platform }) :
    Ensures (Sound hand contents) (Process.onPlatform operation) after :=
  fun s sound => spec s sound.1 s.toPlatform sound.2

-- An operation that turns some of what is in hand into something else.
theorem lift_turn {α : Type} {operation : StateM (Platform ω) α} {after : α → Slots ω}
    (taken : List Entry) (given : α → List Entry)
    (spec : ∀ rest, Ensures (Books (taken ++ rest) contents) operation
      fun value => Books (given value ++ rest) (after value)) :
    Ensures (Sound (hand.addEntries taken) contents) (Process.onPlatform operation) fun value =>
      Sound (hand.addEntries (given value)) (after value) := by
  refine lift fun s standing => ?_
  -- To the operation, all that the process holds besides is the frame of the books.
  have regroup : ∀ entries, (stock s ++ (entries ++ hand.entries)).Perm
      (entries ++ (stock s ++ hand.entries)) := fun _ => List.perm_append_comm_assoc _ _ _
  refine Ensures.weaken (Ensures.strengthen (spec (stock s ++ hand.entries)) fun _ books =>
    books.perm (regroup taken)) fun value _ books => ?_
  exact ⟨(Standing.addEntries.mpr (Standing.addEntries.mp standing)).onPlatform _,
    books.perm (regroup (given value)).symm⟩

theorem lift_same {α : Type} {operation : StateM (Platform ω) α} {after : Slots ω}
    (spec : ∀ rest, Ensures (Books rest contents) operation fun _ => Books rest after) :
    Ensures (Sound hand contents) (Process.onPlatform operation) fun _ => Sound hand after :=
  lift_turn [] (fun _ => []) spec

-- An operation that uses up what is in hand, and may change the shared slots.
theorem lift_spend {α : Type} {operation : StateM (Platform ω) α} {spent : List Entry}
    {after : Slots ω}
    (spec : ∀ rest, Ensures (Books (spent ++ rest) contents) operation fun _ => Books rest after) :
    Ensures (Sound (hand.addEntries spent) contents) (Process.onPlatform operation) fun _ =>
      Sound hand after :=
  lift_turn spent (fun _ => []) spec

theorem lift_held {α : Type} {operation : StateM (Platform ω) α} {entry : Entry}
    (held : ∀ s : Process ω, Standing hand s → entry ∈ stock s)
    (spec : ∀ rest, Ensures (Books (entry :: rest) contents) operation
      fun _ => Books (entry :: rest) contents) :
    Ensures (Sound hand contents) (Process.onPlatform operation) fun _ => Sound hand contents := by
  refine lift fun s standing => ?_
  have regroup : (stock s ++ hand.entries).Perm
      (entry :: ((stock s).erase entry ++ hand.entries)) :=
    (List.perm_cons_erase (held s standing)).append_right hand.entries
  exact Ensures.weaken (Ensures.strengthen (spec _) fun _ books => books.perm regroup)
    fun _ _ books => ⟨standing.onPlatform _, books.perm regroup.symm⟩

theorem note {notice : Notice} :
    Ensures (Sound hand contents) (Process.onPlatform (Platform.note notice)) fun _ =>
      Sound hand contents :=
  lift_same fun _ => Books.note

theorem consult {α : Type} {answer : StateM ω α} :
    Ensures (Sound hand contents) (Process.onPlatform (Platform.consult answer)) fun _ =>
      Sound hand contents :=
  lift_same fun _ => Books.consult

theorem of_gain {s : Process ω} {platform : Platform ω} {gained : List Entry} {after : Slots ω}
    (standing : Standing hand s)
    (books : Books (gained ++ (stock s ++ hand.entries)) after platform) :
    Sound (hand.addEntries gained) after { s with toPlatform := platform } := by
  refine ⟨(Standing.addEntries.mpr standing).onPlatform _, books.perm ?_⟩
  change (gained ++ (stock s ++ hand.entries)).Perm (stock s ++ (gained ++ hand.entries))
  rw [← List.append_assoc, ← List.append_assoc]
  exact List.Perm.append_right _ List.perm_append_comm

end Sound

theorem Shelf.map_modify {α : Type} (objects : List α) (place holders : Nat)
    {view : α → Entry × Nat} {change : α → α}
    (changes : ∀ object, view (change object) = ((view object).1, holders)) :
    (objects.modify place change).map view = Shelf.setHolders (objects.map view) place holders := by
  refine List.ext_getElem? fun other => ?_
  rw [Shelf.setHolders, List.getElem?_map, List.getElem?_modify, List.getElem?_modify,
    List.getElem?_map]
  cases objects[other]? with
  | none => rfl
  | some object => split <;> simp [changes]

theorem suiteShelf_setHolders (s : Process ω) (number holders : Nat) :
    suiteShelf (setSuiteHolders number holders s).2 =
      (suiteShelf s).setHolders number holders :=
  Shelf.map_modify s.suites number holders fun _ => rfl

theorem generatorShelf_setHolders (s : Process ω) (number holders : Nat) :
    generatorShelf (setGeneratorHolders number holders s).2 =
      (generatorShelf s).setHolders number holders :=
  Shelf.map_modify s.generators number holders fun _ => rfl

theorem started_setSuiteHolders {s : Process ω} {number holders : Nat}
    (started : ∀ shared ∈ s.suites, shared.suite.handle.started = true) :
    ∀ shared ∈ (setSuiteHolders number holders s).2.suites,
      shared.suite.handle.started = true := by
  intro shared member
  obtain ⟨place, found⟩ := List.mem_iff_getElem?.mp member
  change (s.suites.modify number _)[place]? = _ at found
  rw [List.getElem?_modify] at found
  obtain ⟨before, stood, rfl⟩ := Option.map_eq_some_iff.mp found
  have kept := started before (List.mem_of_getElem? stood)
  split <;> exact kept

-- An operation on a suite begins: it is held, and its engine runs; or nobody holds it.
theorem sound_acquireSuite? (number : Nat) :
    Ensures (Sound hand contents) (acquireSuite? (ω := ω) number) fun acquired s =>
      match acquired with
      | none => Sound hand contents s
      | some suite => suite.handle.started = true ∧
          Sound (hand.addSuite (number, suite.handle.entry)) contents s := by
  unfold acquireSuite?
  refine Ensures.read fun s sound => ?_
  cases found : s.suites[number]? with
  | none => exact Ensures.pure fun _ same => same ▸ sound
  | some shared =>
    dsimp only
    split
    · exact Ensures.pure fun _ same => same ▸ sound
    · rename_i held
      refine Ensures.step (Ensures.pure fun _ same => ?_)
      subst same
      have shelved : (suiteShelf s)[number]? = some shared.view := by
        rw [suiteShelf, List.getElem?_map, found, Option.map_some]
      obtain ⟨standing, books⟩ := sound
      refine ⟨standing.started shared (List.mem_of_getElem? found),
        ⟨?_, standing.generators, standing.live, standing.whole,
          started_setSuiteHolders standing.started, standing.current, standing.owned,
          standing.instances⟩, ?_⟩
      · rw [suiteShelf_setHolders]
        exact standing.suites.acquire shelved
      -- One more holder makes no count zero, so the shelf holds what it held.
      · have same : stock (setSuiteHolders number (shared.holders + 1) s).2 = stock s := by
          rw [stock, suiteShelf_setHolders,
            Shelf.held_setHolders shelved held (Nat.succ_ne_zero _)]
          rfl
        rw [same]
        exact books

-- An operation on a suite ends; the last one to let go drops it.
theorem sound_releaseSuite {number : Nat} {entry : Entry} :
    Ensures (Sound (hand.addSuite (number, entry)) contents) (releaseSuite (ω := ω) number)
      fun _ => Sound hand contents := by
  unfold releaseSuite
  refine Ensures.read fun s ⟨standing, books⟩ => ?_
  obtain ⟨holders, shelved, counted, remaining⟩ := standing.suites.release
  rw [suiteShelf, List.getElem?_map] at shelved
  obtain ⟨shared, found, viewed⟩ := Option.map_eq_some_iff.mp shelved
  obtain ⟨rfl, count⟩ := Prod.mk.inj viewed
  rw [found]
  dsimp only
  refine Ensures.step ?_
  have after : Standing hand (setSuiteHolders number (shared.holders - 1) s).2 := by
    refine ⟨?_, standing.generators, standing.live, standing.whole,
      started_setSuiteHolders standing.started, standing.current, standing.owned,
      standing.instances⟩
    rw [suiteShelf_setHolders, count]
    exact counted
  -- The entry leaves the shelf with its last holder only, and is then in hand to be dropped.
  have stocked : (stock s).Perm ((if holders = 0 then [shared.suite.handle.entry] else []) ++
      stock (setSuiteHolders number (shared.holders - 1) s).2) := by
    have others := remaining.append_right
      ((generatorShelf s).held ++ ((live? s).map Subsystems.entries).getD [])
    rw [List.append_assoc] at others
    rw [stock, stock, suiteShelf_setHolders, count]
    exact others
  have settled := books.perm (stocked.append_right hand.entries)
  split
  case isTrue last =>
    have none : holders = 0 := by omega
    rw [if_pos none] at settled
    have drop : Ensures (Sound (hand.addEntries [shared.suite.handle.entry]) contents)
        (Process.onPlatform shared.suite.drop) fun _ => Sound hand contents :=
      Sound.lift_spend fun _ => Engine.Handle.books_drop shared.suite.handle
    refine Ensures.strengthen drop ?_
    rintro _ rfl
    exact ⟨Standing.addEntries.mpr after, settled.perm List.perm_middle.symm⟩
  case isFalse more =>
    have some : holders ≠ 0 := by omega
    rw [if_neg some] at settled
    refine Ensures.pure ?_
    rintro _ rfl
    exact ⟨after, settled⟩

theorem sound_shareSuite {suite : Engine.Suite ω} (started : suite.handle.started = true) :
    Ensures (Sound (hand.addEntries [suite.handle.entry]) contents) (shareSuite suite)
      fun number => Sound (hand.addSuite (number, suite.handle.entry)) contents := by
  rintro s ⟨standing, books⟩
  have shelf : suiteShelf (shareSuite suite s).2 =
      suiteShelf s ++ [(suite.handle.entry, 1)] :=
    List.map_append
  have length : (suiteShelf s).length = s.suites.length := List.length_map _
  have counted := standing.suites.push suite.handle.entry
  rw [length] at counted
  refine ⟨⟨?_, standing.generators, standing.live, standing.whole, ?_, standing.current,
    standing.owned, standing.instances⟩, books.perm ?_⟩
  · rw [shelf]
    exact counted
  · intro shared member
    rcases List.mem_append.mp member with earlier | last
    · exact standing.started shared earlier
    · rw [List.mem_singleton.mp last]
      exact started
  · have stocked : stock (shareSuite suite s).2 =
        ((suiteShelf s).held ++ [suite.handle.entry]) ++
          ((generatorShelf s).held ++ ((live? s).map Subsystems.entries).getD []) := by
      rw [stock, shelf, Shelf.held_push]
      rfl
    rw [stocked, stock]
    -- The entry goes from the hand to the end of the shelf; counting spares the regrouping.
    refine List.perm_iff_count.mpr fun entry => ?_
    simp only [List.count_append, List.count_cons, List.count_nil, Custody.addEntries,
      Custody.addSuite]
    omega

theorem sound_acquireGenerator? (number : Nat) :
    Ensures (Sound hand contents) (acquireGenerator? (ω := ω) number) fun acquired s =>
      match acquired with
      | none => Sound hand contents s
      | some shared => Sound (hand.addGenerator (number, shared.view.1)) contents s := by
  unfold acquireGenerator?
  refine Ensures.read fun s sound => ?_
  cases found : s.generators[number]? with
  | none => exact Ensures.pure fun _ same => same ▸ sound
  | some shared =>
    dsimp only
    split
    · exact Ensures.pure fun _ same => same ▸ sound
    · rename_i held
      refine Ensures.step (Ensures.pure fun _ same => ?_)
      subst same
      have shelved : (generatorShelf s)[number]? = some shared.view := by
        rw [generatorShelf, List.getElem?_map, found, Option.map_some]
      obtain ⟨standing, books⟩ := sound
      refine ⟨⟨standing.suites, ?_, standing.live, standing.whole, standing.started,
        standing.current, standing.owned, standing.instances⟩, ?_⟩
      · rw [generatorShelf_setHolders]
        exact standing.generators.acquire shelved
      · have same : stock (setGeneratorHolders number (shared.holders + 1) s).2 = stock s := by
          rw [stock, generatorShelf_setHolders,
            Shelf.held_setHolders shelved held (Nat.succ_ne_zero _)]
          rfl
        rw [same]
        exact books

theorem sound_releaseGenerator {number : Nat} {entry : Entry} :
    Ensures (Sound (hand.addGenerator (number, entry)) contents) (releaseGenerator (ω := ω) number)
      fun _ => Sound hand contents := by
  unfold releaseGenerator
  refine Ensures.read fun s ⟨standing, books⟩ => ?_
  obtain ⟨holders, shelved, counted, remaining⟩ := standing.generators.release
  rw [generatorShelf, List.getElem?_map] at shelved
  obtain ⟨shared, found, viewed⟩ := Option.map_eq_some_iff.mp shelved
  obtain ⟨rfl, count⟩ := Prod.mk.inj viewed
  rw [found]
  dsimp only
  refine Ensures.step ?_
  have after : Standing hand (setGeneratorHolders number (shared.holders - 1) s).2 := by
    refine ⟨standing.suites, ?_, standing.live, standing.whole, standing.started,
      standing.current, standing.owned, standing.instances⟩
    rw [generatorShelf_setHolders, count]
    exact counted
  have stocked : (stock s).Perm ((if holders = 0 then [(shared.number, .generatorMade)] else []) ++
      stock (setGeneratorHolders number (shared.holders - 1) s).2) := by
    have others := (remaining.append_right
      (((live? s).map Subsystems.entries).getD [])).append_left (suiteShelf s).held
    rw [stock, stock, generatorShelf_setHolders, count]
    rw [List.append_assoc] at others
    exact others.trans (List.perm_append_comm_assoc _ _ _)
  have settled := books.perm (stocked.append_right hand.entries)
  split
  case isTrue last =>
    have none : holders = 0 := by omega
    rw [if_pos none] at settled
    have drop : Ensures (Sound (hand.addEntries [(shared.number, .generatorMade)]) contents)
        (Process.onPlatform (Platform.record shared.generator.reported
          (.generatorDrop shared.number))) fun _ => Sound hand contents :=
      Sound.lift_spend fun _ => Ensures.weaken (Books.record_one Leads.drop_generator rfl)
        fun _ _ books => books.discharge
    refine Ensures.strengthen drop ?_
    rintro _ rfl
    exact ⟨Standing.addEntries.mpr after, settled.perm List.perm_middle.symm⟩
  case isFalse more =>
    have some : holders ≠ 0 := by omega
    rw [if_neg some] at settled
    refine Ensures.pure ?_
    rintro _ rfl
    exact ⟨after, settled⟩

theorem sound_shareGenerator (generator : Generator ω) (number : Nat) :
    Ensures (Sound (hand.addEntries [(number, .generatorMade)]) contents)
      (shareGenerator generator number)
      fun place => Sound (hand.addGenerator (place, (number, .generatorMade))) contents := by
  rintro s ⟨standing, books⟩
  have shelf : generatorShelf (shareGenerator generator number s).2 =
      generatorShelf s ++ [((number, .generatorMade), 1)] :=
    List.map_append
  have length : (generatorShelf s).length = s.generators.length := List.length_map _
  have counted := standing.generators.push (number, .generatorMade)
  rw [length] at counted
  refine ⟨⟨standing.suites, ?_, standing.live, standing.whole, standing.started,
    standing.current, standing.owned, standing.instances⟩, books.perm ?_⟩
  · rw [shelf]
    exact counted
  · have stocked : stock (shareGenerator generator number s).2 =
        (suiteShelf s).held ++ (((generatorShelf s).held ++ [(number, .generatorMade)]) ++
          ((live? s).map Subsystems.entries).getD []) := by
      rw [stock, shelf, Shelf.held_push]
      rfl
    rw [stocked, stock]
    refine List.perm_iff_count.mpr fun entry => ?_
    simp only [List.count_append, List.count_cons, List.count_nil, Custody.addEntries,
      Custody.addGenerator]
    omega

end

end CryptoProvider.Factory
