import CryptoProvider.Proofs.Factory.Following

/-!
Taking an instance down, and the life of the one instance. Destroying the parts of an instance
puts back everything that was in hand for it; so a demand and a reset both keep the process in
order.
-/

set_option autoImplicit false

namespace CryptoProvider.Factory

open Ledger

variable {ω : Type} {hand : Custody ω} {contents : Slots ω}

theorem sound_dismissSuite {number : Nat} {entry : Entry} :
    Ensures (Sound (hand.addSuite (number, entry)) contents) (dismissSuite (ω := ω) number)
      fun _ => Sound hand contents := by
  unfold dismissSuite
  refine Ensures.read fun s sound => ?_
  refine Ensures.strengthen ?_ fun _ same => same ▸ sound
  obtain ⟨holders, shelved, _⟩ := sound.1.suites.release
  rw [suiteShelf, List.getElem?_map] at shelved
  obtain ⟨shared, found, _⟩ := Option.map_eq_some_iff.mp shelved
  rw [found]
  dsimp only
  split
  · exact Ensures.bind Sound.note fun _ => sound_releaseSuite
  · exact sound_releaseSuite

section

variable {owned : Subsystems ω}

theorem sound_dropSuite (hand : Custody ω) {suites : List Flight}
    (named : suites.map Prod.fst = owned.suite.toList) :
    Ensures (Sound { hand with suites := suites ++ hand.suites } contents)
      (owned.suite.forM dismissSuite) fun _ => Sound hand contents := by
  cases same : owned.suite with
  | none =>
    rw [same] at named
    obtain rfl := List.map_eq_nil_iff.mp named
    exact Ensures.pure fun _ sound => sound
  | some number =>
    rw [same] at named
    obtain ⟨⟨number, entry⟩, rfl, rfl⟩ := List.map_eq_singleton_iff.mp named
    exact sound_dismissSuite

theorem sound_dropGenerator (hand : Custody ω) {generators : List Flight}
    (named : generators.map Prod.fst = owned.generator.toList) :
    Ensures (Sound { hand with generators := generators ++ hand.generators } contents)
      (owned.generator.forM releaseGenerator) fun _ => Sound hand contents := by
  cases same : owned.generator with
  | none =>
    rw [same] at named
    obtain rfl := List.map_eq_nil_iff.mp named
    exact Ensures.pure fun _ sound => sound
  | some number =>
    rw [same] at named
    obtain ⟨⟨number, entry⟩, rfl, rfl⟩ := List.map_eq_singleton_iff.mp named
    exact sound_releaseGenerator

theorem sound_dropHardware (hand : Custody ω) (whole : owned.Whole) :
    Ensures (Sound (hand.addEntries (hardwareEntries owned.hardware)) contents)
      (owned.hardware.forM fun hardware => Process.onPlatform hardware.drop) fun _ =>
        Sound hand
          (if owned.hardware.isSome then { contents with transport := none } else contents) := by
  cases same : owned.hardware with
  | none => exact Ensures.pure fun _ sound => sound
  | some hardware =>
    exact Sound.lift_spend fun _ => Command.Hardware.books_drop (whole.hardware hardware same)

theorem sound_dropRandom (hand : Custody ω) :
    Ensures (Sound (hand.addEntries (randomEntries owned.hardwareRandom)) contents)
      (owned.hardwareRandom.forM fun random => Process.onPlatform random.drop) fun _ =>
        Sound hand contents := by
  cases owned.hardwareRandom with
  | none => exact Ensures.pure fun _ sound => sound
  | some random => exact Sound.lift_spend fun _ => Engine.Handle.books_drop random.handle

theorem sound_dropBridge :
    Ensures (Sound hand contents)
      (owned.lockBridge.forM fun bridge => Process.onPlatform do
        let _ ← bridge.teardown
        return ()) fun _ =>
      Sound hand
        (match owned.lockBridge with
          | some bridge => bridge.dismantle contents
          | none => contents) := by
  cases owned.lockBridge with
  | none => exact Ensures.pure fun _ sound => sound
  | some bridge =>
    have taken : ∀ rest, Ensures (Books rest contents)
        (do
          let _ ← bridge.teardown
          return ()) fun _ => Books rest (bridge.dismantle contents) := fun rest =>
      Ensures.bind (Locking.Bridge.books_teardown bridge) fun _ =>
        Ensures.pure fun _ books => books
    exact Sound.lift_same taken

theorem sound_destroy {laden : Custody ω} (whole : owned.Whole) (load : Laden hand owned laden) :
    Ensures (Sound laden contents) (destroy owned) fun _ =>
      Sound hand (owned.dismantle contents) := by
  obtain ⟨suites, generators, namedSuite, namedGenerator, rfl⟩ := load
  unfold destroy
  refine Ensures.bind (sound_dropSuite
    ⟨hand.current, hand.owned, hand.instances, hand.suites, generators ++ hand.generators,
      owned.entries ++ hand.entries⟩ namedSuite) fun _ => ?_
  -- Each part is put back from the front of what is in hand, so the parts stand there in the
  -- order of destruction.
  have grouped : owned.entries ++ hand.entries =
      hardwareEntries owned.hardware ++ (randomEntries owned.hardwareRandom ++ hand.entries) :=
    List.append_assoc _ _ _
  rw [grouped]
  refine Ensures.bind (sound_dropHardware
    ⟨hand.current, hand.owned, hand.instances, hand.suites, generators ++ hand.generators,
      randomEntries owned.hardwareRandom ++ hand.entries⟩ whole) fun _ => ?_
  refine Ensures.bind (sound_dropGenerator
    ⟨hand.current, hand.owned, hand.instances, hand.suites, hand.generators,
      randomEntries owned.hardwareRandom ++ hand.entries⟩ namedGenerator) fun _ => ?_
  refine Ensures.bind (sound_dropRandom hand) fun _ => ?_
  exact sound_dropBridge

end

/-- The process with the current instance taken out of its slot, and the parts taken from it. -/
def detach (number : Nat) (s : Process ω) : Process ω :=
  { s with
    current := none
    instances := s.instances.modify number fun i => { i with subsystems := none } }

theorem subsystems?_detach (s : Process ω) (number other : Nat) :
    subsystems? (detach number s) other = if other = number then none else subsystems? s other := by
  change (s.instances.modify number _)[other]?.bind Instance.subsystems = _
  rw [List.getElem?_modify]
  by_cases same : other = number
  · subst same
    rw [if_pos rfl]
    cases s.instances[other]? with
    | none => rfl
    | some found => simp
  · rw [if_neg same]
    unfold subsystems?
    cases s.instances[other]? with
    | none => rfl
    | some found => simp [Ne.symm same]

def finishReset (handles : Nat) (owned : Subsystems ω) : StateM (Process ω) Unit := do
  if 0 < handles then Process.onPlatform (Platform.note (.resetWithHandles handles))
  destroy owned

-- A reset detaches the live instance and then destroys its parts.
theorem reset_eq {s : Process ω} {number : Nat} {owned : Subsystems ω}
    (current : s.current = some number) (lives : subsystems? s number = some owned) :
    reset s = finishReset ((s.instances[number]?.map Instance.handles).getD 0) owned
      (detach number s) := by
  have parts : ∀ t : Process ω, ((subsystems? s number).forM destroy : StateM (Process ω) Unit) t =
      destroy owned t := by
    rw [lives]
    intro t
    rfl
  have changed : ∀ (change : Process ω → Process ω) (t : Process ω),
      (modify change : StateM (Process ω) PUnit) t = (⟨⟩, change t) := fun _ _ => rfl
  simp only [reset, shutDown, finishReset, current, bind, StateT.bind, get, getThe,
    MonadStateOf.get, StateT.get, changed, pure]
  by_cases held : 0 < (s.instances[number]?.map Instance.handles).getD 0
  · simp only [held, if_true]
    exact parts _
  · simp only [held, if_false]
    exact parts _

theorem live?_of_current {s : Process ω} {number : Nat} (current : s.current = some number) :
    live? s = subsystems? s number := by
  rw [live?, current]
  rfl

theorem live?_of_none {s : Process ω} (current : s.current = none) : live? s = none := by
  rw [live?, current]
  rfl

theorem Shelf.Counted.take_all {shelf : Shelf} {owner : Option Nat} {flights : List Flight}
    (counted : shelf.Counted owner.toList flights) :
    ∃ more : List Flight, more.map Prod.fst = owner.toList ∧
      shelf.Counted [] (more ++ flights) := by
  cases owner with
  | none => exact ⟨[], rfl, counted⟩
  | some place =>
    obtain ⟨entry, taken⟩ := counted.take_over
    exact ⟨[(place, entry)], rfl, taken⟩

theorem Shelf.Counted.hand_all {shelf : Shelf} {owner : Option Nat} {more flights : List Flight}
    (named : more.map Prod.fst = owner.toList) (counted : shelf.Counted [] (more ++ flights)) :
    shelf.Counted owner.toList flights := by
  cases owner with
  | none =>
    obtain rfl := List.map_eq_nil_iff.mp named
    exact counted
  | some place =>
    obtain ⟨⟨place, entry⟩, rfl, rfl⟩ := List.map_eq_singleton_iff.mp named
    exact counted.hand_over

-- The parts of a detached instance are in hand.
theorem Sound.detach {s : Process ω} {number : Nat} {owned : Subsystems ω}
    (sound : Sound hand contents s) (current : s.current = some number)
    (lives : subsystems? s number = some owned) :
    ∃ laden, Laden { hand with current := none, owned := none } owned laden ∧
      Sound laden contents (Factory.detach number s) := by
  obtain ⟨standing, books⟩ := sound
  have owner : live? s = some owned := (live?_of_current current).trans lives
  have empty : live? (Factory.detach number s) = none := rfl
  have countedSuites := standing.suites
  have countedGenerators := standing.generators
  rw [owner] at countedSuites countedGenerators
  obtain ⟨suites, namedSuite, countedSuites⟩ := countedSuites.take_all
  obtain ⟨generators, namedGenerator, countedGenerators⟩ := countedGenerators.take_all
  refine ⟨_, ⟨suites, generators, namedSuite, namedGenerator, rfl⟩,
    ⟨countedSuites, countedGenerators, fun other => ?_, ?_, standing.started, rfl, rfl, ?_⟩, ?_⟩
  · rw [subsystems?_detach]
    by_cases same : other = number
    · simp [same, Factory.detach]
    · have dead := (not_congr (standing.live other)).mpr (by simp [current, Ne.symm same])
      simp [same, dead, Factory.detach]
  · simp [empty]
  · exact (List.length_modify _ _ _).trans standing.instances
  -- The books stay: what the live instance held is now in hand.
  · refine books.perm ?_
    rw [stock, owner]
    change ((suiteShelf s).held ++ ((generatorShelf s).held ++ owned.entries) ++ hand.entries).Perm
      ((suiteShelf s).held ++ ((generatorShelf s).held ++ []) ++ (owned.entries ++ hand.entries))
    simp

/-- The process is in order: the custody, the books, and the shared slots. -/
structure Orderly (alone : Bool) (hand : Custody ω) (s : Process ω) : Prop where
  standing : Standing hand s
  accounts : Accounts (stock s ++ hand.entries) s.toPlatform
  follows : Follows alone hand.owned (slots s.toPlatform)

variable {alone : Bool}

theorem Orderly.sound {s : Process ω} (orderly : Orderly alone hand s) :
    Sound hand (slots s.toPlatform) s :=
  ⟨orderly.standing, orderly.accounts, rfl⟩

theorem Sound.orderly {s : Process ω} (sound : Sound hand contents s)
    (follows : Follows alone hand.owned contents) : Orderly alone hand s := by
  obtain ⟨standing, accounts, rfl⟩ := sound
  exact ⟨standing, accounts, follows⟩

theorem Standing.lives {s : Process ω} {number : Nat} (standing : Standing hand s)
    (current : s.current = some number) : ∃ owned, subsystems? s number = some owned :=
  Option.isSome_iff_exists.mp ((standing.live number).mpr current)

theorem reset_of_none {s : Process ω} (current : s.current = none) : reset s = ((), s) := by
  simp only [reset, current, bind, StateT.bind, get, getThe, MonadStateOf.get, StateT.get, pure]
  rfl

-- A reset keeps the process in order, and leaves no live instance.
theorem orderly_reset :
    Ensures (Orderly alone hand (ω := ω)) reset fun _ =>
      Orderly alone { hand with current := none, owned := none } := by
  intro s orderly
  cases current : s.current with
  | none =>
    have same : { hand with current := none, owned := none } = hand := by
      rw [← current, orderly.standing.current, ← live?_of_none current, orderly.standing.owned]
    rw [reset_of_none current, same]
    exact orderly
  | some number =>
    obtain ⟨owned, lives⟩ := orderly.standing.lives current
    have owner : live? s = some owned := (live?_of_current current).trans lives
    have whole := orderly.standing.whole owned owner
    have follows := orderly.follows
    rw [← orderly.standing.owned, owner] at follows
    obtain ⟨laden, load, detached⟩ := orderly.sound.detach current lives
    rw [reset_eq current lives]
    have finished : Ensures (Sound laden (slots s.toPlatform))
        (finishReset ((s.instances[number]?.map Instance.handles).getD 0) owned)
        fun _ => Sound { hand with current := none, owned := none }
          (owned.dismantle (slots s.toPlatform)) := by
      unfold finishReset
      split
      · exact Ensures.bind Sound.note fun _ => sound_destroy whole load
      · exact sound_destroy whole load
    exact (finished _ detached).orderly (follows.dismantled whole)

theorem subsystems?_changeHandles (s : Process ω) (number other : Nat) (change : Nat → Nat) :
    subsystems? (changeHandles number change s).2 other = subsystems? s other := by
  change (s.instances.modify number _)[other]?.bind Instance.subsystems = _
  rw [List.getElem?_modify]
  unfold subsystems?
  cases s.instances[other]? with
  | none => rfl
  | some found => dsimp only [Option.map_some, Option.bind_some]; split <;> rfl

theorem orderly_changeHandles (number : Nat) (change : Nat → Nat) :
    Ensures (Orderly alone hand (ω := ω)) (changeHandles number change) fun _ =>
      Orderly alone hand := by
  intro s orderly
  -- Counting handles touches nothing that custody looks at.
  have same : subsystems? (changeHandles number change s).2 = subsystems? s :=
    funext fun other => subsystems?_changeHandles s number other change
  have owner : live? (changeHandles number change s).2 = live? s := by
    rw [live?, same]
    rfl
  have stocked : stock (changeHandles number change s).2 = stock s := by
    rw [stock, owner]
    rfl
  obtain ⟨standing, accounts, follows⟩ := orderly
  refine ⟨⟨?_, ?_, ?_, ?_, standing.started, standing.current, ?_, ?_⟩, ?_, ?_⟩
  · rw [owner]
    exact standing.suites
  · rw [owner]
    exact standing.generators
  · rw [same]
    exact standing.live
  · rw [owner]
    exact standing.whole
  · exact owner.trans standing.owned
  · exact (List.length_modify _ _ _).trans standing.instances
  · rw [stocked]
    exact accounts
  · exact follows

def Custody.adopting (hand : Custody ω) (owned : Subsystems ω) : Custody ω :=
  { hand with
    current := some hand.instances
    owned := some owned
    instances := hand.instances + 1 }

def adopt (owned : Subsystems ω) (s : Process ω) : Process ω :=
  { s with
    instances := s.instances ++ [⟨some owned, 1⟩]
    current := some s.instances.length }

theorem subsystems?_adopt (owned : Subsystems ω) (s : Process ω) (number : Nat) :
    subsystems? (adopt owned s) number =
      if number = s.instances.length then some owned else subsystems? s number := by
  change (s.instances ++ [⟨some owned, 1⟩])[number]?.bind Instance.subsystems = _
  by_cases same : number = s.instances.length
  · simp [same]
  · rw [if_neg same]
    rcases Nat.lt_or_gt_of_ne same with before | after
    · rw [List.getElem?_append_left before]
      rfl
    · have beyond : (s.instances ++ [Instance.mk (some owned) 1]).length ≤ number := by
        rw [List.length_append]
        exact after
      rw [subsystems?, List.getElem?_eq_none beyond, List.getElem?_eq_none (Nat.le_of_lt after)]

-- What is in hand for a new instance becomes its own.
theorem Sound.adopt {s : Process ω} {owned : Subsystems ω} {laden : Custody ω}
    (sound : Sound laden contents s) (whole : owned.Whole) (load : Laden hand owned laden)
    (vacant : hand.current = none) :
    Sound (hand.adopting owned) contents (Factory.adopt owned s) := by
  obtain ⟨suites, generators, namedSuite, namedGenerator, rfl⟩ := load
  obtain ⟨standing, books⟩ := sound
  have empty : s.current = none := standing.current.trans vacant
  have length : s.instances.length = hand.instances := standing.instances
  have owner : live? (Factory.adopt owned s) = some owned := by
    rw [live?_of_current rfl, subsystems?_adopt, if_pos rfl]
  have nobody : live? s = none := live?_of_none empty
  have countedSuites := standing.suites
  have countedGenerators := standing.generators
  rw [nobody] at countedSuites countedGenerators
  refine ⟨⟨?_, ?_, fun number => ?_, ?_, standing.started, ?_, owner, ?_⟩, ?_⟩
  · rw [owner]
    exact countedSuites.hand_all namedSuite
  · rw [owner]
    exact countedGenerators.hand_all namedGenerator
  · rw [subsystems?_adopt]
    by_cases same : number = s.instances.length
    · simp [same, Factory.adopt]
    · have dead := (not_congr (standing.live number)).mpr (by simp [empty])
      simp [same, dead, Factory.adopt, Ne.symm same]
  · rw [owner]
    rintro _ ⟨⟩
    exact whole
  · exact congrArg some length
  · change (s.instances ++ _).length = hand.instances + 1
    rw [List.length_append, length]
    rfl
  · refine books.perm ?_
    rw [stock, stock, owner, nobody]
    change ((suiteShelf s).held ++ ((generatorShelf s).held ++ []) ++
      (owned.entries ++ hand.entries)).Perm
      ((suiteShelf s).held ++ ((generatorShelf s).held ++ owned.entries) ++ hand.entries)
    simp

-- Building an instance keeps the process in order, and the new instance is the live one.
theorem orderly_construct [Memory ω] (options : Options ω) (vacant : hand.current = none) :
    Ensures (Orderly alone hand) (construct options) fun number s => number = hand.instances ∧
      ∃ owned, Orderly alone (hand.adopting owned) s := by
  intro s orderly
  have follows := orderly.follows
  rw [← orderly.standing.owned, live?_of_none (orderly.standing.current.trans vacant)] at follows
  obtain ⟨whole, after, laden, built, load, sound⟩ := sound_build options s orderly.sound
  have adopted := sound.adopt whole load vacant
  obtain ⟨_, _, _, _, rfl⟩ := load
  exact ⟨sound.1.instances, _, adopted.orderly (follows.built built)⟩

end CryptoProvider.Factory
