import CryptoProvider.Proofs.Factory.Aftermath
import CryptoProvider.Proofs.Traffic.Order

/-!
Whose is what. A suite or a generator gets a new place when an instance is built, and no other
instance ever has it; so a product that needs it was issued by that instance, at whatever time.
-/

set_option autoImplicit false

namespace CryptoProvider.Factory

variable {ω : Type}

/-- Whether what a product needs was ever shared. -/
def Need.Known (s : Process ω) : Need → Prop
  | suite place => place < s.suites.length
  | generator place => place < s.generators.length

theorem Aged.length_le {α : Type} {holders : α → Nat} {shelf later : List α}
    (aged : Aged holders shelf later) : shelf.length ≤ later.length := by
  refine Nat.le_of_not_lt fun fewer => ?_
  obtain ⟨_, stands, _⟩ := aged later.length _ (List.getElem?_eq_getElem fewer)
  rw [List.getElem?_eq_none (Nat.le_refl _)] at stands
  cases stands

theorem Need.Known.later {need : Need} {s next : Process ω} (known : need.Known s)
    (later : Later s next) : need.Known next := by
  cases need with
  | suite place => exact Nat.lt_of_lt_of_le known later.suites.length_le
  | generator place => exact Nat.lt_of_lt_of_le known later.generators.length_le

theorem Need.known_of_holders {need : Need} {s : Process ω} (held : need.holders s ≠ 0) :
    need.Known s := by
  cases need with
  | suite place =>
    refine Nat.lt_of_not_le fun beyond => held ?_
    rw [holders, List.getElem?_eq_none beyond]
    rfl
  | generator place =>
    refine Nat.lt_of_not_le fun beyond => held ?_
    rw [holders, List.getElem?_eq_none beyond]
    rfl

/-! Building an instance only adds to the shelves. -/

/-- The shelves at a later time: nothing on them has changed, but there may be more. -/
structure Grown (s t : Process ω) : Prop where
  suites : s.suites <+: t.suites
  generators : s.generators <+: t.generators

section

variable {start : Process ω}

theorem Grown.refl (s : Process ω) : Grown s s :=
  ⟨List.prefix_rfl, List.prefix_rfl⟩

theorem grown_onPlatform {α : Type} (operation : StateM (Platform ω) α) :
    Ensures (Grown start) (Process.onPlatform operation) fun _ => Grown start :=
  fun _ grown => ⟨grown.suites, grown.generators⟩

theorem grown_pure {α : Type} (value : α) :
    Ensures (Grown start) (pure value) fun _ => Grown start :=
  Ensures.pure fun _ grown => grown

theorem grown_setUpBridge [Memory ω] (registry : Nat) :
    Ensures (Grown start) (setUpBridge registry) fun _ => Grown start := by
  unfold setUpBridge
  refine Ensures.bind (grown_onPlatform _) fun made => ?_
  cases made with
  | ok bridge => exact grown_pure _
  | error cause => exact Ensures.bind (grown_onPlatform _) fun _ => grown_pure _

theorem grown_enterCompliance (options : Options ω) :
    Ensures (Grown start) (enterCompliance options) fun _ => Grown start := by
  unfold enterCompliance
  split
  · refine Ensures.bind (grown_onPlatform _) fun entered => ?_
    cases entered with
    | ok _ => exact grown_pure _
    | error cause => exact Ensures.bind (grown_onPlatform _) fun _ => grown_pure _
  · exact grown_pure _

theorem grown_attachHardwareRandom (options : Options ω) :
    Ensures (Grown start) (attachHardwareRandom options) fun _ => Grown start := by
  unfold attachHardwareRandom
  split
  · refine Ensures.bind (grown_onPlatform _) fun attached => ?_
    cases attached with
    | ok random => exact grown_pure _
    | error cause => exact Ensures.bind (grown_onPlatform _) fun _ => grown_pure _
  · exact grown_pure _

theorem grown_bringUpHardware [Memory ω] (options : Options ω) :
    Ensures (Grown start) (bringUpHardware options) fun _ => Grown start := by
  unfold bringUpHardware
  cases options.config.transport with
  | none => exact grown_pure _
  | some spec =>
    refine Ensures.bind (grown_onPlatform _) fun broughtUp => ?_
    cases broughtUp with
    | ok hardware => exact grown_pure _
    | error cause => exact Ensures.bind (grown_onPlatform _) fun _ => grown_pure _

theorem grown_createGenerator (source : GeneratorSource ω) :
    Ensures (Grown start) (createGenerator source) fun generator s => Grown start s ∧
      ∀ place, generator = some place → start.generators.length ≤ place := by
  unfold createGenerator
  refine Ensures.bind (grown_onPlatform _) fun created => ?_
  cases created with
  | ok generator =>
    refine Ensures.bind (grown_onPlatform _) fun number => ?_
    refine Ensures.bind (grown_onPlatform _) fun _ => ?_
    intro s grown
    refine ⟨⟨grown.suites, grown.generators.trans (List.prefix_append _ _)⟩, ?_⟩
    rintro _ ⟨⟩
    exact grown.generators.length_le
  | error cause =>
    refine Ensures.bind (grown_onPlatform _) fun _ => ?_
    refine Ensures.bind (grown_onPlatform _) fun _ => ?_
    exact Ensures.pure fun _ grown => ⟨grown, by simp⟩

theorem grown_attachSuite (options : Options ω) :
    Ensures (Grown start) (attachSuite options) fun suite s => Grown start s ∧
      ∀ place, suite = some place → start.suites.length ≤ place := by
  unfold attachSuite
  cases options.config.alternateSuite with
  | none => exact Ensures.pure fun _ grown => ⟨grown, by simp⟩
  | some config =>
    refine Ensures.bind (grown_onPlatform _) fun attached => ?_
    cases attached with
    | ok suite =>
      intro s grown
      refine ⟨⟨grown.suites.trans (List.prefix_append _ _), grown.generators⟩, ?_⟩
      rintro _ ⟨⟩
      exact grown.suites.length_le
    | error cause =>
      refine Ensures.bind (grown_onPlatform _) fun _ => ?_
      exact Ensures.pure fun _ grown => ⟨grown, by simp⟩

-- What an instance is built of was never shared before.
theorem grown_build [Memory ω] (options : Options ω) :
    Ensures (Grown start) (build options) fun owned s => Grown start s ∧
      ∀ need : Need, need.PartOf owned → ¬ need.Known start := by
  have nothing : ∀ need : Need, ∀ bridge compliant random,
      ¬ need.PartOf (⟨bridge, compliant, random, none, none, none⟩ : Subsystems ω) := by
    intro need bridge compliant random part
    cases need <;> cases part
  unfold build
  refine Ensures.bind (grown_setUpBridge _) fun bridge => ?_
  refine Ensures.bind (grown_enterCompliance options) fun compliant => ?_
  cases compliant with
  | none => exact Ensures.pure fun _ grown => ⟨grown, fun need part => absurd part (nothing _ _ _ _)⟩
  | some compliant =>
    refine Ensures.bind (grown_attachHardwareRandom options) fun random => ?_
    refine Ensures.bind (grown_createGenerator _) fun generator => ?_
    cases generator with
    | none =>
      exact Ensures.pure fun _ grown => ⟨grown.1, fun need part => absurd part (nothing _ _ _ _)⟩
    | some generator =>
      intro s ⟨grown, newGenerator⟩
      have attached : Ensures (Grown start) (do
          let hardware ← bringUpHardware options
          let suite ← attachSuite options
          return (⟨bridge, compliant, random, some generator, hardware, suite⟩ : Subsystems ω))
          fun owned s => Grown start s ∧ owned.generator = some generator ∧
            ∀ place, owned.suite = some place → start.suites.length ≤ place :=
        Ensures.bind (grown_bringUpHardware options) fun hardware =>
          Ensures.bind (grown_attachSuite options) fun suite =>
            Ensures.pure fun _ grown => ⟨grown.1, rfl, grown.2⟩
      obtain ⟨grown, made, newSuite⟩ := attached s grown
      refine ⟨grown, fun need part known => ?_⟩
      cases need with
      | suite place => exact Nat.not_lt_of_le (newSuite place part) known
      | generator place => exact Nat.not_lt_of_le (newGenerator place (made.symm.trans part)) known

end

theorem later_detach (number : Nat) (s : Process ω) : Later s (detach number s) :=
  (regular_vacate.later s).trans ((regular_strip number).later _)

theorem Need.later_acquire? (need : Need) (s : Process ω) : Later s (need.acquire? s).2 := by
  cases need with
  | suite place => exact (regular_acquireSuite? place).later s
  | generator place => exact (regular_acquireGenerator? place).later s

theorem Hold.later_release (hold : Hold ω) (s : Process ω) : Later s (hold.release s).2 := by
  cases hold with
  | suite place held => exact (regular_releaseSuite place).later s
  | generator place shared => exact (regular_releaseGenerator place).later s

theorem Subsystems.Taken.partOf {rest less : Subsystems ω} {take : StateM (Process ω) Unit} {need : Need}
    (part : rest.Taken take less) (left : need.PartOf less) : need.PartOf rest := by
  cases part with
  | suite place has =>
    cases need with
    | suite other => cases left
    | generator other => exact left
  | generator place has =>
    cases need with
    | suite other => exact left
    | generator other => cases left
  | _ => cases need <;> exact left

theorem Need.reshelved_acquire? (need : Need) (s : Process ω) :
    Reshelved s (need.acquire? s).2 := by
  cases need with
  | suite place =>
    rw [acquire?_suite]
    rcases acquireSuite?_cases s place with failed | ⟨shared, _, _, acquired⟩
    · rw [failed]
      exact .refl s
    · rw [acquired]
      exact ⟨rfl, rfl, rfl, rfl⟩
  | generator place =>
    rw [acquire?_generator]
    rcases acquireGenerator?_cases s place with failed | ⟨shared, _, _, acquired⟩
    · rw [failed]
      exact .refl s
    · rw [acquired]
      exact ⟨rfl, rfl, rfl, rfl⟩

theorem Hold.reshelved_release (hold : Hold ω) (s : Process ω) :
    Reshelved s (hold.release s).2 := by
  cases hold with
  | suite place held => exact reshelved_releaseSuite place s
  | generator place shared => exact reshelved_releaseGenerator place s

theorem Advance.later [Memory ω] {t next : Traffic ω} (advance : Advance t next) :
    Later t.process next.process := by
  cases advance with
  | still => exact .refl _
  | built options free vacant =>
    exact (Regular.bind (.onPlatform (Platform.oblivious_consult options)) regular_construct).later _
  | handled number change => exact (regular_changeHandles number change).later _
  | dispatched number request => exact (regular_dispatch number request).later _
  | begun product need needs => exact need.later_acquire? _
  | asked hold flies count => cases hold <;> exact .of_shelves (.refl _) (.refl _) rfl
  | resumed hold flies => cases hold <;> exact .of_shelves (.refl _) (.refl _) rfl
  | finished flight hold found => exact hold.later_release _
  | entered number free current => exact (Regular.of_alike (alike_tellHandles number)).later _
  | detached number stage => exact later_detach number _
  | taken number rest stage take less part =>
    cases part with
    | suite place has => exact (regular_dismissSuite place).later _
    | hardware hardware has => exact .of_shelves (.refl _) (.refl _) rfl
    | generator place has => exact (regular_releaseGenerator place).later _
    | random random has earlier => exact .of_shelves (.refl _) (.refl _) rfl
    | bridge bridge has => exact .of_shelves (.refl _) (.refl _) rfl
  | returned number rest stage last => exact .refl _
  | acted act => exact .of_shelves (.refl _) (.refl _) rfl

namespace Traffic

variable {t next : Traffic ω}

theorem later_after [Memory ω] (moves : List (Move ω)) (t : Traffic ω) :
    Later t.process (after moves t).process :=
  after_induction (fun u => Later t.process u.process)
    (fun move u later => later.trans (move.advance u).later) moves (.refl _)

/-! What an instance keeps was never anybody else's. -/

theorem parts_congr (stage : next.teardown = t.teardown)
    (current : next.process.current = t.process.current)
    (owned : subsystems? next.process = subsystems? t.process) : next.parts = t.parts := by
  rw [parts, stage, current, owned, parts]

theorem keeps_of_owns {frame : List Ledger.Entry} {number : Nat} {owned : Subsystems ω}
    {need : Need} (order : InOrder frame t) (owns : subsystems? t.process number = some owned)
    (part : need.PartOf owned) : t.Keeps number need := by
  obtain ⟨_, _, _, _, _, _, _, sound⟩ := order.balanced
  have current : t.process.current = some number :=
    (sound.1.live number).mp (Option.isSome_iff_exists.mpr ⟨owned, owns⟩)
  have slot : ∀ other rest, t.teardown ≠ some (.dismantling other rest) := by
    intro other rest stage
    rw [order.staged.dismantling other rest stage] at current
    cases current
  refine ⟨owned, ?_, part⟩
  rw [parts_of_slot slot, current, Option.bind_some, owns]
  rfl

-- A new instance keeps what was not shared before.
theorem keeps_built [Memory ω] {number : Nat} {need : Need} (free : t.teardown = none)
    (options : StateM ω (Options ω))
    (keeps : (t.onProcess
      (Process.onPlatform (Platform.consult options) >>= construct)).Keeps number need) :
    ¬ need.Known t.process := by
  obtain ⟨made, between, suites, generators, given⟩ : ∃ made between,
      between.suites = t.process.suites ∧ between.generators = t.process.generators ∧
      ((Process.onPlatform (Platform.consult options) >>= construct) t.process).2 =
        adopt (build made between).1 (build made between).2 :=
    ⟨_, _, rfl, rfl, rfl⟩
  obtain ⟨owned, parts, part⟩ := keeps
  have slot : ∀ other rest, (t.onProcess
      (Process.onPlatform (Platform.consult options) >>= construct)).teardown ≠
        some (.dismantling other rest) := by
    intro other rest stage
    cases free.symm.trans stage
  have adopted : subsystems? (adopt (build made between).1 (build made between).2)
      (build made between).2.instances.length = some (build made between).1 := by
    rw [subsystems?_adopt, if_pos rfl]
  rw [parts_of_slot slot, onProcess, given] at parts
  change (some (build made between).2.instances.length).bind _ = _ at parts
  rw [Option.bind_some, adopted] at parts
  obtain rfl := (Prod.mk.inj (Option.some.inj parts)).2
  have fresh := (grown_build made between (.refl between)).2 need part
  intro known
  cases need with
  | suite place => exact fresh (suites ▸ known : place < between.suites.length)
  | generator place => exact fresh (generators ▸ known : place < between.generators.length)

theorem keeps_of_advance [Memory ω] {frame : List Ledger.Entry} {number : Nat} {need : Need}
    (order : InOrder frame t) (advance : Advance t next) (keeps : next.Keeps number need) :
    t.Keeps number need ∨ ¬ need.Known t.process := by
  have same : ∀ parts : next.parts = t.parts, t.Keeps number need ∨ ¬ need.Known t.process := by
    intro parts
    rw [Keeps, parts] at keeps
    exact .inl keeps
  cases advance with
  | still => exact .inl keeps
  | built options free vacant => exact .inr (keeps_built free options keeps)
  | handled other change =>
    have alike := alike_changeHandles other change t.process
    exact same (parts_congr rfl alike.current.symm alike.owned.symm)
  | dispatched other request =>
    have alike := tells_dispatch other request t.process
    exact same (parts_congr rfl alike.current.symm alike.owned.symm)
  | begun product other needs =>
    have reshelved := other.reshelved_acquire? t.process
    exact same (parts_congr rfl reshelved.current reshelved.owned)
  | asked hold flies count => cases hold <;> exact same (parts_congr rfl rfl rfl)
  | resumed hold flies => cases hold <;> exact same (parts_congr rfl rfl rfl)
  | finished flight hold found =>
    have reshelved := hold.reshelved_release t.process
    exact same (parts_congr rfl reshelved.current reshelved.owned)
  | entered other free current =>
    have alike := alike_tellHandles other t.process
    refine same ?_
    rw [parts_of_slot (by simp), parts_of_slot (by simp [free])]
    change (tellHandles other t.process).2.current.bind (fun number =>
      (subsystems? (tellHandles other t.process).2 number).map fun owned => (number, owned)) = _
    rw [← alike.current, ← alike.owned]
  | detached other stage =>
    have current := order.staged.entered other stage
    obtain ⟨owned, lives, _⟩ := order.lives current
    refine same ?_
    rw [parts_of_dismantling rfl, parts_of_slot (by simp [stage]), current, Option.bind_some, lives]
    rfl
  | taken other rest stage take less part =>
    obtain ⟨owned, parts, left⟩ := keeps
    rw [parts_of_dismantling rfl] at parts
    cases parts
    exact .inl ⟨rest, parts_of_dismantling stage, part.partOf left⟩
  | returned other rest stage last =>
    obtain ⟨owned, parts, left⟩ := keeps
    have vacant : t.process.current = none := order.staged.dismantling other rest stage
    rw [parts_of_slot (by simp)] at parts
    change t.process.current.bind _ = _ at parts
    rw [vacant] at parts
    cases parts
  | acted act => exact same (parts_congr rfl rfl rfl)

/-- What a product needs was shared, and no instance but one keeps it. -/
structure Sole (t : Traffic ω) (number : Nat) (need : Need) : Prop where
  known : need.Known t.process
  keeper : ∀ other, t.Keeps other need → other = number

variable {frame : List Ledger.Entry} {number : Nat} {need : Need}

theorem Keeps.unique {other : Nat} {another : Need} (keeps : t.Keeps number need)
    (others : t.Keeps other another) : other = number := by
  obtain ⟨_, parts, _⟩ := keeps
  obtain ⟨_, same, _⟩ := others
  rw [parts] at same
  exact (Prod.mk.inj (Option.some.inj same)).1.symm

theorem Keeps.sole (order : InOrder frame t) (keeps : t.Keeps number need) : t.Sole number need where
  known := Need.known_of_holders ((order.holders_iff need).mpr (.inl ⟨number, keeps⟩))
  keeper _ others := keeps.unique others

theorem Sole.advance [Memory ω] (sole : t.Sole number need) (order : InOrder frame t)
    (advance : Advance t next) : next.Sole number need where
  known := sole.known.later advance.later
  keeper other keeps :=
    (keeps_of_advance order advance keeps).elim (sole.keeper other) fun new =>
      absurd sole.known new

end Traffic

/-- What a product needs is a part of the instance it was made of. -/
theorem Made.MadeOf.partOf {owned : Subsystems ω} {made : Made} {need : Need}
    (madeOf : made.MadeOf owned) (needs : made.need? = some need) : need.PartOf owned := by
  cases madeOf with
  | cipher product => cases needs
  | scheme product builtin =>
    cases product with
    | gost source => exact absurd rfl builtin
    | _ => cases needs
  | suiteScheme digest place part => cases needs; exact part
  | hash kind digest builtin => cases needs
  | suiteHash digest place part => cases needs; exact part
  | hmac kind digest builtin => cases needs
  | cmac family => cases needs
  | suiteHmac digest place part => cases needs; exact part
  | random place part => cases needs; exact part

namespace Traffic

variable {t next : Traffic ω} {frame : List Ledger.Entry} {number : Nat} {need : Need}

-- A product is issued by an instance that keeps what the product needs.
theorem issued_of_advance [Memory ω] (order : InOrder frame t) (advance : Advance t next)
    {made : Made} (issued : (number, made) ∈ next.products) :
    (number, made) ∈ t.products ∨ ∀ need, made.need? = some need → t.Keeps number need := by
  cases advance with
  | dispatched other request =>
    rcases List.mem_append.mp issued with before | new
    · exact .inl before
    · obtain ⟨given, obtained, same⟩ := Option.map_eq_some_iff.mp (Option.mem_toList.mp new)
      cases same
      cases answer : (dispatch number request t.process).1 with
      | error cause =>
        rw [answer] at obtained
        cases obtained
      | ok product =>
        rw [answer] at obtained
        cases obtained
        obtain ⟨owned, owns, madeOf⟩ := madeOf_of_dispatch answer
        exact .inr fun need needs => keeps_of_owns order owns (madeOf.partOf needs)
  | _ => exact .inl issued

/-- Every product that was issued needs what no other instance keeps. -/
def Attributed (t : Traffic ω) : Prop :=
  ∀ number made, (number, made) ∈ t.products → ∀ need, made.need? = some need →
    t.Sole number need

theorem attributed_after [Memory ω] (order : InOrder frame t) (attributed : t.Attributed)
    (moves : List (Move ω)) : (after moves t).Attributed := by
  have both : InOrder frame (after moves t) ∧ (after moves t).Attributed := by
    refine after_induction (fun u => InOrder frame u ∧ u.Attributed) ?_ moves ⟨order, attributed⟩
    rintro move u ⟨order, attributed⟩
    refine ⟨order.run move, fun number made issued need needs => ?_⟩
    have advance := move.advance u
    rcases issued_of_advance order advance issued with before | keeps
    · exact (attributed number made before need needs).advance order advance
    · exact ((keeps need needs).sole order).advance order advance
  exact both.2

/-- What a product needs belongs to an instance: no other keeps it, and every product that needs it
was issued by that instance. -/
structure Belongs (t : Traffic ω) (number : Nat) (need : Need) : Prop extends
    Sole t number need where
  issuer : ∀ other made, (other, made) ∈ t.products → made.need? = some need → other = number

theorem Keeps.belongs (order : InOrder frame t) (attributed : t.Attributed)
    (keeps : t.Keeps number need) : t.Belongs number need where
  toSole := keeps.sole order
  issuer other made issued needs :=
    ((attributed other made issued need needs).keeper number keeps).symm

theorem Belongs.advance [Memory ω] (belongs : t.Belongs number need) (order : InOrder frame t)
    (advance : Advance t next) : next.Belongs number need where
  toSole := belongs.toSole.advance order advance
  issuer other made issued needs :=
    (issued_of_advance order advance issued).elim
      (fun before => belongs.issuer other made before needs)
      fun keeps => belongs.keeper other (keeps need needs)

theorem Belongs.after [Memory ω] (belongs : t.Belongs number need) (order : InOrder frame t)
    (moves : List (Move ω)) : (after moves t).Belongs number need := by
  have both : InOrder frame (Traffic.after moves t) ∧ (Traffic.after moves t).Belongs number need :=
    after_induction (fun u => InOrder frame u ∧ u.Belongs number need)
      (fun move u both => ⟨both.1.run move, both.2.advance both.1 (move.advance u)⟩) moves
      ⟨order, belongs⟩
  exact both.2

end Traffic

end CryptoProvider.Factory
