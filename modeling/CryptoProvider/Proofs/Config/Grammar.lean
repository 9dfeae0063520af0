import CryptoProvider.Proofs.Config.Locality
import Mathlib.Data.List.TakeWhile

/-!
The grammars of transport specs and of control commands.

Either text is a head and, after the first mark, a rest. The parts of a text determine it and are
determined by it (`parts_eq_iff`); so whatever a reader accepts is what would be written for the
answer, and whatever is written is read back.
-/

set_option autoImplicit false

namespace CryptoProvider

namespace Text

/-- What stands before the first mark: the whole text if there is none. -/
def before (mark : Char) (text : List Char) : List Char :=
  text.takeWhile (· ≠ mark)

/-- What stands after the first mark: nothing if there is none. -/
def after (mark : Char) (text : List Char) : List Char :=
  (text.dropWhile (· ≠ mark)).tail

/-- What stands before the first mark, and what stands after it if there is one. -/
def parts (mark : Char) (text : List Char) : List Char × Option (List Char) :=
  match splitAtFirst mark text with
  | some (head, rest) => (head, some rest)
  | none => (text, none)

def join (mark : Char) (head : List Char) : Option (List Char) → List Char
  | none => head
  | some rest => head ++ mark :: rest

variable {mark : Char} {text head rest : List Char} {rest? : Option (List Char)}

theorem splitAtFirst_eq_some_iff :
    splitAtFirst mark text = some (head, rest) ↔ mark ∉ head ∧ head ++ mark :: rest = text := by
  constructor
  · intro split
    obtain ⟨whole, unmarked⟩ := eq_append_of_splitAtFirst mark text head rest split
    exact ⟨unmarked, whole.symm⟩
  · rintro ⟨unmarked, rfl⟩
    exact splitAtFirst_append mark head rest unmarked

theorem parts_eq_iff :
    parts mark text = (head, rest?) ↔ mark ∉ head ∧ join mark head rest? = text := by
  cases rest? with
  | some rest =>
    rw [join, ← splitAtFirst_eq_some_iff, parts]
    cases splitAtFirst mark text <;> simp [Prod.ext_iff]
  | none =>
    have whole : parts mark text = (head, none) ↔ splitAtFirst mark text = none ∧ text = head := by
      rw [parts]
      cases splitAtFirst mark text <;> simp
    rw [whole, splitAtFirst_eq_none_iff, join]
    constructor
    · rintro ⟨unmarked, rfl⟩
      exact ⟨unmarked, rfl⟩
    · rintro ⟨unmarked, rfl⟩
      exact ⟨unmarked, rfl⟩

theorem parts_eq : parts mark text =
    (before mark text, if mark ∈ text then some (after mark text) else none) := by
  induction text with
  | nil => rfl
  | cons c rest ih =>
    by_cases same : c = mark
    · simp [parts, splitAtFirst, before, after, same]
    · have passed : parts mark (c :: rest) = (c :: (parts mark rest).1, (parts mark rest).2) := by
        simp only [parts, splitAtFirst, if_neg same]
        cases splitAtFirst mark rest <;> rfl
      have apart : mark ≠ c := fun met => same met.symm
      rw [passed, ih]
      simp [before, after, same, apart]

theorem after_of_not_mem (unmarked : mark ∉ text) : after mark text = [] := by
  have passed : text.dropWhile (· ≠ mark) = [] := by
    refine List.dropWhile_eq_nil_iff.mpr fun char mine => decide_eq_true ?_
    rintro rfl
    exact unmarked mine
  rw [after, passed, List.tail_nil]

/-- The part after the mark, as a rest that may be absent. -/
theorem forall_mem_rest {P : List Char → Prop} (bare : P []) :
    (∀ rest ∈ (parts mark text).2, P rest) ↔ P (after mark text) := by
  rw [parts_eq]
  by_cases marked : mark ∈ text
  · simp [marked]
  · simp [marked, after_of_not_mem marked, bare]

end Text

namespace Transport.Spec

open Text

/-- The specs that can be written: the name is told from the configuration, and the configuration
can be handed to a plugin. -/
structure WellFormed (spec : Spec) : Prop where
  named : spec.name ≠ ""
  unmarked : ':' ∉ spec.name.toList
  terminated : ∀ config ∈ spec.config, '\x00' ∉ config.toList

theorem toList_render (spec : Spec) :
    spec.render.toList = join ':' spec.name.toList (spec.config.map String.toList) := by
  unfold render
  cases spec.config with
  | none => rfl
  | some config => exact String.toList_ofList

section

variable {text : String} {head : List Char} {rest? : Option (List Char)}

theorem parse_eq_of_parts (split : parts ':' text.toList = (head, rest?)) :
    parse text =
      if head.isEmpty then .error (.invalidParameter (.emptyTransportName text))
      else if rest?.any (·.contains '\x00') then .error (.invalidParameter .nulInTransportConfig)
      else .ok ⟨String.ofList head, rest?.map String.ofList⟩ := by
  unfold parts at split
  unfold parse
  cases found : splitAtFirst ':' text.toList <;>
  · rw [found] at split
    cases split
    rfl

theorem parse_of_parts (split : parts ':' text.toList = (head, rest?)) (spec : Spec) :
    parse text = .ok spec ↔ head ≠ [] ∧ (∀ rest ∈ rest?, '\x00' ∉ rest) ∧
      spec = ⟨String.ofList head, rest?.map String.ofList⟩ := by
  rw [parse_eq_of_parts split]
  cases head with
  | nil => simp
  | cons first others =>
    cases rest? with
    | none => simp [eq_comm]
    | some rest => by_cases terminated : '\x00' ∈ rest <;> simp [terminated, eq_comm]

end

/-- What is read is what would be written for it, and only specs that can be written are read. -/
theorem parse_eq_ok_iff {text : String} {spec : Spec} :
    parse text = .ok spec ↔ spec.WellFormed ∧ spec.render = text := by
  constructor
  · intro parsed
    obtain ⟨unmarked, whole⟩ := parts_eq_iff.mp (Prod.eta (parts ':' text.toList)).symm
    obtain ⟨named, terminated, rfl⟩ := (parse_of_parts (Prod.eta _).symm spec).mp parsed
    refine ⟨⟨by simpa using named, by simpa using unmarked, by simpa using terminated⟩, ?_⟩
    rw [← String.toList_inj, toList_render]
    simpa [Function.comp_def] using whole
  · rintro ⟨wellFormed, rfl⟩
    have split := parts_eq_iff.mpr ⟨wellFormed.unmarked, (toList_render spec).symm⟩
    refine (parse_of_parts split spec).mpr ⟨by simpa using wellFormed.named, ?_, ?_⟩
    · simpa using wellFormed.terminated
    · simp [Function.comp_def]

theorem exists_parse_eq_ok_iff {text : String} : (∃ spec, parse text = .ok spec) ↔
    before ':' text.toList ≠ [] ∧ '\x00' ∉ after ':' text.toList := by
  rw [← forall_mem_rest (P := fun rest => '\x00' ∉ rest) List.not_mem_nil]
  have head : (parts ':' text.toList).1 = before ':' text.toList := congrArg Prod.fst parts_eq
  rw [← head]
  simp [parse_of_parts (Prod.eta _).symm]

end Transport.Spec

namespace Config

open Text

/-- The control commands that can be written and handed to an engine. -/
structure WellFormedControl (control : String × String) : Prop where
  named : control.1 ≠ ""
  unmarked : '=' ∉ control.1.toList
  terminated : '\x00' ∉ control.1.toList ∧ '\x00' ∉ control.2.toList

def renderControl (control : String × String) : String :=
  control.1 ++ "=" ++ control.2

/-- The same lookup with one variable unset. -/
def unset (name : String) (lookup : String → Option String) : String → Option String :=
  fun other => if other = name then none else lookup other

theorem toList_renderControl (control : String × String) :
    (renderControl control).toList = control.1.toList ++ '=' :: control.2.toList := by
  simp [renderControl]

theorem control?_eq_some_iff {value : String} {control : String × String} :
    control? value = some control ↔ WellFormedControl control ∧ renderControl control = value := by
  constructor
  · intro read
    unfold control? at read
    split at read
    case h_1 => cases read
    case h_2 command argument split =>
      obtain ⟨unmarked, whole⟩ := splitAtFirst_eq_some_iff.mp split
      obtain ⟨fine, same⟩ := Option.ite_none_left_eq_some.mp read
      cases same
      simp only [Bool.or_eq_true, List.isEmpty_iff, List.contains_iff_mem, not_or] at fine
      obtain ⟨⟨named, first⟩, second⟩ := fine
      refine ⟨⟨by simpa using named, by simpa using unmarked, by simpa using ⟨first, second⟩⟩, ?_⟩
      rw [← String.toList_inj, toList_renderControl]
      simpa using whole
  · rintro ⟨wellFormed, rfl⟩
    have split := splitAtFirst_eq_some_iff.mpr
      ⟨wellFormed.unmarked, (toList_renderControl control).symm⟩
    simp [control?, split, wellFormed.named, wellFormed.terminated]

theorem exists_control?_eq_some_iff {value : String} : (∃ control, control? value = some control) ↔
    '=' ∈ value.toList ∧ before '=' value.toList ≠ [] ∧ '\x00' ∉ value.toList := by
  simp only [control?_eq_some_iff]
  constructor
  · rintro ⟨control, wellFormed, rfl⟩
    have divided : parts '=' (renderControl control).toList =
        (control.1.toList, some control.2.toList) :=
      parts_eq_iff.mpr ⟨wellFormed.unmarked, (toList_renderControl control).symm⟩
    have head : before '=' (renderControl control).toList = control.1.toList :=
      congrArg Prod.fst (parts_eq.symm.trans divided)
    rw [head, toList_renderControl]
    simp [wellFormed.named, wellFormed.terminated]
  · rintro ⟨marked, named, terminated⟩
    have divided : parts '=' value.toList =
        (before '=' value.toList, some (after '=' value.toList)) :=
      parts_eq.trans (by rw [if_pos marked])
    obtain ⟨unmarked, whole⟩ := parts_eq_iff.mp divided
    rw [join] at whole
    rw [← whole] at terminated
    refine ⟨(String.ofList (before '=' value.toList), String.ofList (after '=' value.toList)),
      ?_, ?_⟩
    · simp only [List.mem_append, List.mem_cons, not_or] at terminated
      refine ⟨by simpa using named, by simpa using unmarked, ?_⟩
      simpa using ⟨terminated.1, terminated.2.2⟩
    · rw [← String.toList_inj, toList_renderControl]
      simpa using whole

/-- A value that can be read replaces the control command that the engine has without it. -/
theorem ofLookup_control {lookup : String → Option String} {value : String}
    (enabled : (lookup engineVariable).any disables = false)
    (given : lookup controlVariable = some value) (kept : disables value = false) :
    ∃ engine, (ofLookup (unset controlVariable lookup)).1.alternateSuite = some engine ∧
      (ofLookup lookup).1.alternateSuite =
        some { engine with control := (control? value).or engine.control } := by
  have read : (readEngine (lookup engineVariable)).1 ≠ none := fun none => by
    rw [(readEngine_eq_none_iff _).mp none] at enabled
    cases enabled
  obtain ⟨engine, known⟩ := Option.ne_none_iff_exists'.mp read
  refine ⟨engine, ?_, ?_⟩
  · change (readControl (readEngine (unset controlVariable lookup engineVariable)).1
      (unset controlVariable lookup controlVariable)).1 = _
    have others : unset controlVariable lookup engineVariable = lookup engineVariable :=
      if_neg (by decide)
    have none : unset controlVariable lookup controlVariable = none := if_pos rfl
    rw [others, none, known]
    rfl
  · change (readControl (readEngine (lookup engineVariable)).1 (lookup controlVariable)).1 = _
    rw [known, given, readControl, kept]
    cases control? value <;> rfl

/-- Transport specs and control commands are read exactly and reversibly: which texts are accepted,
and that an answer is given just for the text that would be written for it. A control command
that is read replaces the engine's own, and one that is not leaves it. -/
theorem grammars_exact_and_reversible :
    (∀ text, (∃ spec, Transport.Spec.parse text = .ok spec) ↔
      before ':' text.toList ≠ [] ∧ '\x00' ∉ after ':' text.toList) ∧
    (∀ text spec, Transport.Spec.parse text = .ok spec ↔ spec.WellFormed ∧ spec.render = text) ∧
    (∀ lookup value, (lookup engineVariable).any disables = false →
      lookup controlVariable = some value → disables value = false →
      ∃ engine, (ofLookup (unset controlVariable lookup)).1.alternateSuite = some engine ∧
        (ofLookup lookup).1.alternateSuite =
          some { engine with control := (control? value).or engine.control }) ∧
    (∀ value, (∃ control, control? value = some control) ↔
      '=' ∈ value.toList ∧ before '=' value.toList ≠ [] ∧ '\x00' ∉ value.toList) ∧
    ∀ value control, control? value = some control ↔
      WellFormedControl control ∧ renderControl control = value :=
  ⟨fun _ => Transport.Spec.exists_parse_eq_ok_iff, fun _ _ => Transport.Spec.parse_eq_ok_iff,
    fun _ _ => ofLookup_control, fun _ => exists_control?_eq_some_iff,
    fun _ _ => control?_eq_some_iff⟩

/-- An argument that holds another mark, for the standard engine. -/
def ranged (name : String) : Option String :=
  [(controlVariable, "RANGE=a=b")].lookup name

theorem grammars_exact_and_reversible_ranged :
    Transport.Spec.parse "device" = .ok ⟨"device", none⟩ ∧
    Transport.Spec.parse "device:" = .ok ⟨"device", some ""⟩ ∧
    (ofLookup ranged).1.alternateSuite = some ⟨"gost", some ("RANGE", "a=b")⟩ := by
  obtain ⟨-, specs, settings, -, controls⟩ := grammars_exact_and_reversible
  have read : control? "RANGE=a=b" = some ("RANGE", "a=b") :=
    (controls _ _).mpr ⟨⟨by decide, by decide, by decide⟩, by decide⟩
  obtain ⟨engine, without, set⟩ := settings ranged "RANGE=a=b" (by decide) (by decide) (by decide)
  have standard : some Engine.SuiteConfig.gost = some engine := without
  refine ⟨(specs _ _).mpr ⟨⟨by decide, by decide, by decide⟩, by decide⟩,
    (specs _ _).mpr ⟨⟨by decide, by decide, by decide⟩, by decide⟩, ?_⟩
  rw [set, read, ← Option.some.inj standard]
  rfl

end Config

end CryptoProvider
