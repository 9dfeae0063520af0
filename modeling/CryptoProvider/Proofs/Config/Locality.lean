import CryptoProvider.Config

/-!
What each setting is read from, and what becomes of a value that cannot be read.

`Malformed` says for every variable which of its values are refused, without reference to the
readers. Two lookups that agree on the variables of a setting agree on the setting; a malformed
value counts as none (`Prunes`); and every malformed value that is read is noticed once, in the
order of reading (`Announced`).
-/

set_option autoImplicit false

namespace CryptoProvider.Config

inductive Variable where
  | transport | library | random | compliance | engine | control
  deriving DecidableEq, Repr

namespace Variable

def name : Variable → String
  | transport => transportVariable
  | library => libraryVariable
  | random => randomVariable
  | compliance => complianceVariable
  | engine => engineVariable
  | control => controlVariable

end Variable

inductive Setting where
  | transport | commandLibrary | hardwareRandom | alternateSuite | compliance

namespace Setting

/-- The variables a setting is read from. -/
def sources : Setting → List Variable
  | transport => [.transport]
  | commandLibrary => [.library]
  | hardwareRandom => [.random]
  | alternateSuite => [.engine, .control]
  | compliance => [.compliance]

/-- Whether two configurations agree on a setting. -/
def Agree : Setting → Config → Config → Prop
  | transport, a, b => a.transport = b.transport
  | commandLibrary, a, b => a.commandLibrary = b.commandLibrary
  | hardwareRandom, a, b => a.hardwareRandom = b.hardwareRandom
  | alternateSuite, a, b => a.alternateSuite = b.alternateSuite
  | compliance, a, b => a.compliance = b.compliance

end Setting

def truthWords : List String := ["1", "true", "on", "yes", "0", "false", "off", "no"]

/-- The values of a variable that cannot be read. -/
def Malformed : Variable → String → Prop
  | .transport, value =>
    Text.equalsIgnoringCase value "none" = false ∧
      ∃ cause, Transport.Spec.parse value = .error cause
  | .library, value => value = ""
  | .random, value | .compliance, value =>
    ∀ word ∈ truthWords, Text.equalsIgnoringCase value word = false
  | .engine, value =>
    Text.equalsIgnoringCase value "none" = false ∧ '\x00' ∈ value.toList
  | .control, value =>
    Text.equalsIgnoringCase value "none" = false ∧
      ('\x00' ∈ value.toList ∨
        ¬∃ command argument,
          command ≠ [] ∧ '=' ∉ command ∧ value.toList = command ++ '=' :: argument)

/-- What is said about a malformed value. -/
inductive Warning : Variable → String → Notice → Prop
  | transport {value cause} (refused : Transport.Spec.parse value = .error cause) :
    Warning .transport value (.malformedTransport transportVariable cause)
  | random {value} : Warning .random value (.malformedFlag randomVariable value)
  | compliance {value} : Warning .compliance value (.malformedFlag complianceVariable value)
  | engine {value} : Warning .engine value (.malformedEngine engineVariable)
  | control {value} : Warning .control value (.malformedControl controlVariable)

/-- The notices of reading these variables in order: one for each malformed value. -/
inductive Announced (lookup : String → Option String) : List Variable → List Notice → Prop
  | done : Announced lookup [] []
  | warned {entry value notice rest notices} (found : lookup entry.name = some value)
      (malformed : Malformed entry value) (warns : Warning entry value notice)
      (others : Announced lookup rest notices) :
    Announced lookup (entry :: rest) (notice :: notices)
  | silent {entry rest notices}
      (fine : ∀ value, lookup entry.name = some value → ¬Malformed entry value)
      (others : Announced lookup rest notices) :
    Announced lookup (entry :: rest) notices

/-- The variables whose values are judged, in the order of reading. The control command is not
looked at when the engine is switched off. -/
def judged (lookup : String → Option String) : List Variable :=
  [.transport, .random, .compliance, .engine] ++
    if (lookup engineVariable).any disables then [] else [.control]

/-- `pruned` is `lookup` without some of its malformed values. -/
def Prunes (lookup pruned : String → Option String) : Prop :=
  ∀ entry : Variable, pruned entry.name = lookup entry.name ∨
    pruned entry.name = none ∧ ∃ value, lookup entry.name = some value ∧ Malformed entry value

theorem Warning.level {entry : Variable} {value : String} {notice : Notice}
    (h : Warning entry value notice) : notice.level = .warn := by
  cases h <;> rfl

theorem Announced.level {lookup : String → Option String} {entries : List Variable}
    {notices : List Notice} (h : Announced lookup entries notices) :
    ∀ notice ∈ notices, notice.level = .warn := by
  induction h with
  | done => simp
  | warned found malformed warns others ih =>
    exact List.forall_mem_cons.mpr ⟨warns.level, ih⟩
  | silent fine others ih => exact ih

/-! ### Each reader -/

theorem flag?_eq_none_iff (value : String) :
    flag? value = none ↔ ∀ word ∈ truthWords, Text.equalsIgnoringCase value word = false := by
  simp only [flag?, truthWords, List.forall_mem_cons, List.not_mem_nil, false_implies,
    implies_true, and_true]
  split
  case isTrue positive =>
    simp only [Bool.or_eq_true] at positive
    simp only [reduceCtorEq, false_iff]
    grind
  case isFalse negative =>
    split
    case isTrue positive =>
      simp only [Bool.or_eq_true] at positive
      simp only [reduceCtorEq, false_iff]
      grind
    case isFalse neither =>
      simp only [Bool.or_eq_true, not_or, Bool.not_eq_true] at negative neither
      simp [negative, neither]

theorem control?_eq_none_iff (value : String) :
    control? value = none ↔
      '\x00' ∈ value.toList ∨ ¬∃ command argument,
        command ≠ [] ∧ '=' ∉ command ∧ value.toList = command ++ '=' :: argument := by
  unfold control?
  cases found : Text.splitAtFirst '=' value.toList with
  | none =>
    have unmarked := (Text.splitAtFirst_eq_none_iff '=' value.toList).mp found
    simp only [true_iff]
    refine .inr ?_
    rintro ⟨command, argument, -, -, split⟩
    exact unmarked (by simp [split])
  | some parts =>
    obtain ⟨before, after⟩ := parts
    obtain ⟨text, unmarked⟩ := Text.eq_append_of_splitAtFirst '=' _ before after found
    have sole : (∃ command argument, command ≠ [] ∧ '=' ∉ command ∧
        value.toList = command ++ '=' :: argument) ↔ before ≠ [] := by
      constructor
      · rintro ⟨command, argument, given, free, split⟩
        have same := Text.splitAtFirst_append '=' command argument free
        rw [← split, found, Option.some.injEq, Prod.mk.injEq] at same
        exact same.1 ▸ given
      · exact fun given => ⟨before, after, given, unmarked, text⟩
    rw [sole, text]
    by_cases nul : '\x00' ∈ before <;> by_cases nulAfter : '\x00' ∈ after <;>
      simp [nul, nulAfter]

theorem readTransport_malformed {value : String} (h : Malformed .transport value) :
    ∃ notice, Warning .transport value notice ∧
      readTransport (some value) = (standard.transport, [notice]) := by
  obtain ⟨enabled, cause, refused⟩ := h
  exact ⟨_, .transport refused, by simp [readTransport, disables, enabled, refused]⟩

theorem readTransport_silent {value : Option String}
    (h : ∀ given, value = some given → ¬Malformed .transport given) :
    (readTransport value).2 = [] := by
  cases value with
  | none => rfl
  | some value =>
    by_cases off : disables value
    · simp [readTransport, off]
    · cases parsed : Transport.Spec.parse value with
      | ok spec => simp [readTransport, off, parsed]
      | error cause => exact absurd ⟨Bool.eq_false_iff.mpr off, cause, parsed⟩ (h value rfl)

theorem readLibrary_malformed {value : String} (h : Malformed .library value) :
    readLibrary (some value) = standard.commandLibrary := by
  rw [show value = "" from h]
  rfl

theorem readFlag_malformed (name : String) (usual : Bool) {value : String}
    (h : flag? value = none) :
    readFlag name usual (some value) = (usual, [.malformedFlag name value]) := by
  simp [readFlag, h]

theorem readFlag_silent (name : String) (usual : Bool) {value : Option String}
    (h : ∀ given, value = some given → flag? given ≠ none) :
    (readFlag name usual value).2 = [] := by
  cases value with
  | none => rfl
  | some value =>
    obtain ⟨flag, read⟩ := Option.ne_none_iff_exists'.mp (h value rfl)
    simp [readFlag, read]

theorem readEngine_malformed {value : String} (h : Malformed .engine value) :
    readEngine (some value) = (standard.alternateSuite, [.malformedEngine engineVariable]) := by
  simp [readEngine, disables, h.1, h.2]

theorem readEngine_silent {value : Option String}
    (h : ∀ given, value = some given → ¬Malformed .engine given) :
    (readEngine value).2 = [] := by
  cases value with
  | none => rfl
  | some value =>
    by_cases off : disables value
    · simp [readEngine, off]
    · have clean : '\x00' ∉ value.toList := fun nul =>
        h value rfl ⟨Bool.eq_false_iff.mpr off, nul⟩
      simp only [readEngine, off, List.contains_iff_mem, clean, Bool.false_eq_true, if_false]
      split <;> rfl

theorem readEngine_eq_none_iff (value : Option String) :
    (readEngine value).1 = none ↔ value.any disables = true := by
  cases value with
  | none => simp [readEngine, standard]
  | some value =>
    by_cases off : disables value
    · simp [readEngine, off]
    · by_cases nul : '\x00' ∈ value.toList
      · simp [readEngine, off, nul, standard]
      · simp only [readEngine, off, List.contains_iff_mem, nul, Bool.false_eq_true, if_false]
        split <;> simp [off]

theorem readControl_malformed (engine : Engine.SuiteConfig) {value : String}
    (h : Malformed .control value) :
    readControl (some engine) (some value) =
      (some engine, [.malformedControl controlVariable]) := by
  have unread : control? value = none := (control?_eq_none_iff value).mpr h.2
  simp [readControl, disables, h.1, unread]

theorem readControl_silent (engine : Option Engine.SuiteConfig) {value : Option String}
    (h : ∀ given, value = some given → ¬Malformed .control given) :
    (readControl engine value).2 = [] := by
  cases engine with
  | none => cases value <;> rfl
  | some engine =>
    cases value with
    | none => rfl
    | some value =>
      by_cases off : disables value
      · simp [readControl, off]
      · cases read : control? value with
        | some control => simp [readControl, off, read]
        | none =>
          have refused := (control?_eq_none_iff value).mp read
          exact absurd ⟨Bool.eq_false_iff.mpr off, refused⟩ (h value rfl)

/-! ### All of them -/

/-- A variable is pruned where its reader gives the same for the value and for none. -/
theorem Prunes.read {α : Type} {lookup pruned : String → Option String}
    (h : Prunes lookup pruned) (entry : Variable) (read : Option String → α)
    (blind : ∀ value, Malformed entry value → read (some value) = read none) :
    read (lookup entry.name) = read (pruned entry.name) := by
  rcases h entry with kept | ⟨unset, value, found, malformed⟩
  · rw [kept]
  · rw [unset, found, blind value malformed]

theorem readEngine_pruned {lookup pruned : String → Option String} (h : Prunes lookup pruned) :
    (readEngine (lookup engineVariable)).1 = (readEngine (pruned engineVariable)).1 :=
  h.read .engine (fun value => (readEngine value).1) fun value malformed => by
    simp only [readEngine_malformed malformed]
    rfl

theorem readControl_pruned {lookup pruned : String → Option String} (h : Prunes lookup pruned)
    (engine : Option Engine.SuiteConfig) :
    (readControl engine (lookup controlVariable)).1 =
      (readControl engine (pruned controlVariable)).1 :=
  h.read .control (fun value => (readControl engine value).1) fun value malformed => by
    cases engine with
    | none => rfl
    | some engine =>
      simp only [readControl_malformed engine malformed]
      rfl

theorem readFlag_pruned {lookup pruned : String → Option String} (h : Prunes lookup pruned)
    (entry : Variable) (usual : Bool)
    (judged : ∀ value, Malformed entry value → flag? value = none) :
    (readFlag entry.name usual (lookup entry.name)).1 =
      (readFlag entry.name usual (pruned entry.name)).1 :=
  h.read entry (fun value => (readFlag entry.name usual value).1) fun value malformed => by
    simp only [readFlag_malformed entry.name usual (judged value malformed)]
    rfl

theorem ofLookup_pruned {lookup pruned : String → Option String} (h : Prunes lookup pruned) :
    (ofLookup lookup).1 = (ofLookup pruned).1 := by
  have transport : (readTransport (lookup transportVariable)).1 =
      (readTransport (pruned transportVariable)).1 :=
    h.read .transport (fun value => (readTransport value).1) fun value malformed => by
      obtain ⟨notice, -, same⟩ := readTransport_malformed malformed
      simp only [same]
      rfl
  have commandLibrary : readLibrary (lookup libraryVariable) =
      readLibrary (pruned libraryVariable) :=
    h.read .library readLibrary fun value malformed => readLibrary_malformed malformed
  have hardwareRandom := readFlag_pruned h .random standard.hardwareRandom fun value =>
    (flag?_eq_none_iff value).mpr
  have compliance := readFlag_pruned h .compliance standard.compliance fun value =>
    (flag?_eq_none_iff value).mpr
  simp only [Variable.name] at hardwareRandom compliance
  simp only [ofLookup, transport, commandLibrary, hardwareRandom, compliance,
    readEngine_pruned h, readControl_pruned h]

/-- One variable in front of the others: its reader's notices are announced. -/
theorem Announced.cons {lookup : String → Option String} {entry : Variable}
    {rest : List Variable} {first others : List Notice}
    (quiet : (∀ value, lookup entry.name = some value → ¬Malformed entry value) → first = [])
    (loud : ∀ value, lookup entry.name = some value → Malformed entry value →
      ∃ notice, Warning entry value notice ∧ first = [notice])
    (after : Announced lookup rest others) : Announced lookup (entry :: rest) (first ++ others) := by
  by_cases fine : ∀ value, lookup entry.name = some value → ¬Malformed entry value
  · rw [quiet fine]
    exact .silent fine after
  · obtain ⟨value, judged⟩ := Classical.not_forall.mp fine
    obtain ⟨found, malformed⟩ := Classical.not_imp.mp judged
    have malformed := Classical.not_not.mp malformed
    obtain ⟨notice, warns, same⟩ := loud value found malformed
    rw [same]
    exact .warned found malformed warns after

theorem announced_flag {lookup : String → Option String} {rest : List Variable}
    {others : List Notice} (entry : Variable) (usual : Bool)
    (judged : ∀ value, Malformed entry value ↔ flag? value = none)
    (warns : ∀ value, Warning entry value (.malformedFlag entry.name value))
    (after : Announced lookup rest others) :
    Announced lookup (entry :: rest)
      ((readFlag entry.name usual (lookup entry.name)).2 ++ others) := by
  refine .cons (fun fine => ?_) (fun value found malformed => ?_) after
  · exact readFlag_silent entry.name usual fun value found unread =>
      fine value found ((judged value).mpr unread)
  · rw [found, readFlag_malformed entry.name usual ((judged value).mp malformed)]
    exact ⟨_, warns value, rfl⟩

theorem announced_control (lookup : String → Option String) (engine : Engine.SuiteConfig) :
    Announced lookup [.control] (readControl (some engine) (lookup controlVariable)).2 := by
  rw [← List.append_nil (readControl _ _).2]
  refine .cons (fun fine => readControl_silent _ fine) (fun value found malformed => ?_) .done
  rw [show lookup controlVariable = some value from found, readControl_malformed engine malformed]
  exact ⟨_, .control, rfl⟩

theorem announced_ofLookup (lookup : String → Option String) :
    Announced lookup (judged lookup) (ofLookup lookup).2 := by
  have last : Announced lookup (if (lookup engineVariable).any disables then [] else [.control])
      (readControl (readEngine (lookup engineVariable)).1 (lookup controlVariable)).2 := by
    cases engine : (readEngine (lookup engineVariable)).1 with
    | none =>
      rw [if_pos ((readEngine_eq_none_iff _).mp engine)]
      exact .done
    | some setting =>
      have enabled : (readEngine (lookup engineVariable)).1 ≠ none := by simp [engine]
      rw [if_neg (fun off => enabled ((readEngine_eq_none_iff _).mpr off))]
      exact announced_control lookup setting
  simp only [ofLookup, judged, List.append_assoc, List.cons_append, List.nil_append]
  refine .cons readTransport_silent (fun value found malformed => ?_) ?_
  · rw [show lookup transportVariable = some value from found]
    obtain ⟨notice, warns, same⟩ := readTransport_malformed malformed
    exact ⟨notice, warns, by rw [same]⟩
  refine announced_flag .random _ (fun value => (flag?_eq_none_iff value).symm) (fun _ => .random) ?_
  refine announced_flag .compliance _ (fun value => (flag?_eq_none_iff value).symm)
    (fun _ => .compliance) ?_
  refine .cons readEngine_silent (fun value found malformed => ?_) last
  rw [show lookup engineVariable = some value from found, readEngine_malformed malformed]
  exact ⟨_, .engine, rfl⟩

theorem ofLookup_agree (lookup other : String → Option String) (setting : Setting)
    (same : ∀ entry ∈ setting.sources, lookup entry.name = other entry.name) :
    setting.Agree (ofLookup lookup).1 (ofLookup other).1 := by
  cases setting <;>
    simp only [Setting.sources, List.forall_mem_cons, Variable.name] at same <;>
    simp only [Setting.Agree, ofLookup, same]

/-- Every setting depends on its own variables only, a malformed value counts as none, and the
malformed values that are judged are noticed once each, as warnings, in the order of reading. -/
theorem ofLookup_local (lookup : String → Option String) :
    (∀ other (setting : Setting),
      (∀ entry ∈ setting.sources, lookup entry.name = other entry.name) →
        setting.Agree (ofLookup lookup).1 (ofLookup other).1) ∧
    (∀ pruned, Prunes lookup pruned → (ofLookup lookup).1 = (ofLookup pruned).1) ∧
    Announced lookup (judged lookup) (ofLookup lookup).2 ∧
    ∀ notice ∈ (ofLookup lookup).2, notice.level = .warn :=
  ⟨ofLookup_agree lookup, fun _ => ofLookup_pruned, announced_ofLookup lookup,
    (announced_ofLookup lookup).level⟩

/-- Three malformed values beside an engine without a control command of its own. -/
def misspelt (name : String) : Option String :=
  [(transportVariable, ":x"), (randomVariable, "maybe"), (engineVariable, "gost2012"),
    (controlVariable, "=x")].lookup name

def unspelt (name : String) : Option String :=
  [(engineVariable, "gost2012")].lookup name

theorem prunes_misspelt : Prunes misspelt unspelt := by
  intro entry
  cases entry with
  | transport => exact .inr ⟨by decide, ":x", by decide, by decide, _, rfl⟩
  | library => exact .inl (by decide)
  | random => exact .inr ⟨by decide, "maybe", by decide, (flag?_eq_none_iff _).mp (by decide)⟩
  | compliance => exact .inl (by decide)
  | engine => exact .inl (by decide)
  | control =>
    exact .inr ⟨by decide, "=x", by decide, by decide, (control?_eq_none_iff _).mp (by decide)⟩

theorem ofLookup_local_misspelt :
    (ofLookup misspelt).1 = (ofLookup unspelt).1 ∧
    Setting.compliance.Agree (ofLookup misspelt).1 (ofLookup unspelt).1 ∧
    (ofLookup misspelt).2 =
      [.malformedTransport transportVariable (.invalidParameter (.emptyTransportName ":x")),
        .malformedFlag randomVariable "maybe", .malformedControl controlVariable] :=
  have located := ofLookup_local misspelt
  ⟨located.2.1 unspelt prunes_misspelt, located.1 unspelt .compliance (by decide), by decide⟩

end CryptoProvider.Config
