import CryptoProvider.Proofs.Transport.Slot

/-!
Which module a transport's name stands for, and what becomes of the modules that are opened.

A load tries the name as it stands, and only if that does not open the conventional file name, if it
is not too long (`Resolves`); what opens first is used, for better or worse. A probe tries the
conventional name alone and closes what it has opened (`Probed`). Whatever is done in whatever
order, just the modules of loads that succeeded are left open.
-/

set_option autoImplicit false

namespace CryptoProvider.Transport

open Ledger

variable {ω : Type}

def fileName (name : String) : String :=
  "libtss2-tcti-" ++ name ++ ".so.0"

/-- The file that a call tries to open, and whether it opens. -/
def attempt? : Call → Option (String × Bool)
  | .moduleOpened _ path => some (path, true)
  | .moduleMissed path => some (path, false)
  | _ => none

def isOpening : Call → Bool
  | .moduleOpened _ _ => true
  | _ => false

def isClosing : Call → Bool
  | .moduleClosed _ _ => true
  | _ => false

def Reply.isMade : Reply → Bool
  | .made _ => true
  | _ => false

/-- How a module is looked for: the files that are tried in turn, and whether they open; the module
that is found in the end, if any, and the outside world at that point. -/
inductive Resolves (loader : ModuleLoader ω) (name : String) (world : ω) :
    List (String × Bool) → Option (NativeModule ω) → ω → Prop where
  | verbatim {found : NativeModule ω} {last : ω}
      (opens : loader.find name world = (some found, last)) :
    Resolves loader name world [(name, true)] (some found) last
  | conventional {next last : ω} {found? : Option (NativeModule ω)}
      (missed : loader.find name world = (none, next))
      (short : (fileName name).utf8ByteSize < 4096)
      (answers : loader.find (fileName name) next = (found?, last)) :
    Resolves loader name world [(name, false), (fileName name, found?.isSome)] found? last
  | tooLong {last : ω} (missed : loader.find name world = (none, last))
      (long : 4096 ≤ (fileName name).utf8ByteSize) :
    Resolves loader name world [(name, false)] none last

/-- What a probe for a transport's library calls, and what it answers. -/
inductive Probed (loader : ModuleLoader ω) (name : String) (world : ω) :
    List Call → Bool → Prop where
  | opened {found : NativeModule ω} (short : (fileName name).utf8ByteSize < 4096)
      (opens : (loader.find (fileName name) world).1 = some found) (module : Nat) :
    Probed loader name world
      [.moduleOpened module (fileName name), .moduleClosed module (fileName name)] true
  | missed (short : (fileName name).utf8ByteSize < 4096)
      (misses : (loader.find (fileName name) world).1 = none) :
    Probed loader name world [.moduleMissed (fileName name)] false
  | tooLong (long : 4096 ≤ (fileName name).utf8ByteSize) : Probed loader name world [] false

/-- Distinct names have distinct file names. -/
theorem fileName_injective {first second : String} (same : fileName first = fileName second) :
    first = second := by
  have named := (String.append_left_inj ".so.0").mp same
  exact (String.append_right_inj "libtss2-tcti-").mp named

theorem libraryName?_eq_some {name path : String} :
    libraryName? name = some path ↔ path = fileName name ∧ path.utf8ByteSize < 4096 := by
  change (if (fileName name).utf8ByteSize < pathLimit then some (fileName name) else none) =
    some path ↔ _
  have limit : pathLimit = 4096 := rfl
  rw [limit, Option.ite_none_right_eq_some, Option.some.injEq]
  constructor
  · rintro ⟨short, rfl⟩
    exact ⟨rfl, short⟩
  · rintro ⟨rfl, short⟩
    exact ⟨short, rfl⟩

theorem libraryName?_eq_none {name : String} :
    libraryName? name = none ↔ 4096 ≤ (fileName name).utf8ByteSize := by
  simp only [Option.eq_none_iff_forall_ne_some, ne_eq, libraryName?_eq_some, not_and]
  constructor
  · exact fun long => Nat.not_lt.mp (long _ rfl)
  · rintro long _ rfl
    exact Nat.not_lt.mpr long

/-! The search. -/

/-- The files that were tried among what was done. -/
def attempts (acts : List Act) : List (String × Bool) :=
  acts.filterMap fun act => act.call?.bind attempt?

theorem attempts_append (first second : List Act) :
    attempts (first ++ second) = attempts first ++ attempts second :=
  List.filterMap_append

theorem attempts_then (acts : List Act) {act : Act} (silent : attempts [act] = []) :
    attempts (acts ++ [act]) = attempts acts := by
  rw [attempts_append, silent, List.append_nil]

theorem Resolves.search {loader : ModuleLoader ω} {name : String} {world last : ω}
    {tried : List (String × Bool)} {found? : Option (NativeModule ω)}
    (resolves : Resolves loader name world tried found? last) :
    search loader name world = (found?, last) := by
  cases resolves with
  | verbatim opens =>
    simp only [Transport.search, bind_apply, opens]
    rfl
  | conventional missed short answers =>
    simp only [Transport.search, bind_apply, missed, libraryName?_eq_some.mpr ⟨rfl, short⟩, answers]
  | tooLong missed long =>
    simp only [Transport.search, bind_apply, missed, libraryName?_eq_none.mpr long]
    rfl

/-- A probe of a module opens and closes nothing. -/
theorem idle_of_probes {module : Nat} {call : Call} (probes : probesModule module call) :
    attempt? call = none ∧ isOpening call = false ∧ isClosing call = false := by
  cases call <;> first | exact ⟨rfl, rfl, rfl⟩ | cases probes

theorem attempts_probes {module : Nat} {probes : List Call}
    (probed : ∀ call ∈ probes, probesModule module call) : attempts (probes.map .call) = [] := by
  refine List.filterMap_eq_nil_iff.mpr fun act mine => ?_
  obtain ⟨call, among, rfl⟩ := List.mem_map.mp mine
  exact (idle_of_probes (probed call among)).1

section

variable {world : ω} {past : List Act} {contents : Slots ω}

/-- What is recorded of opening a file. -/
def opening (path : String) (opened? : Option (OpenModule ω)) : Call :=
  match opened? with
  | none => .moduleMissed path
  | some opened => .moduleOpened opened.number opened.path

theorem asked_openConventional (loader : ModuleLoader ω) (name : String) :
    Ensures (Asked world past contents) (openConventional loader name) fun opened? s =>
      if (fileName name).utf8ByteSize < 4096 then
        opened?.map OpenModule.exports = (loader.find (fileName name) world).1 ∧
        (∀ opened ∈ opened?, opened.path = fileName name) ∧
        Asked (loader.find (fileName name) world).2
          (past ++ [.call (opening (fileName name) opened?)]) contents s
      else opened? = none ∧ Asked world past contents s := by
  unfold openConventional
  by_cases short : (fileName name).utf8ByteSize < 4096
  · simp only [libraryName?_eq_some.mpr ⟨rfl, short⟩, if_pos short]
    exact asked_open? loader (fileName name)
  · simp only [libraryName?_eq_none.mpr (Nat.not_lt.mp short), if_neg short]
    exact Ensures.bind Asked.note fun _ => Ensures.pure fun _ asked => ⟨rfl, asked⟩

theorem resolves_locate (loader : ModuleLoader ω) (name : String) :
    Ensures (Asked world past contents) (locate loader name) fun opened? s =>
      ∃ tried last acts, Resolves loader name world tried (opened?.map OpenModule.exports) last ∧
        attempts acts = tried ∧ Asked last (past ++ acts) contents s := by
  unfold locate
  refine Ensures.bind (asked_open? loader name) fun opened? => Ensures.given fun answered =>
    Ensures.given fun path => ?_
  cases opened? with
  | some opened =>
    obtain rfl := path opened rfl
    have opens : loader.find opened.path world =
        (some opened.exports, (loader.find opened.path world).2) := Prod.ext answered.symm rfl
    exact Ensures.pure fun s asked => ⟨_, _, _, .verbatim opens, rfl, asked⟩
  | none =>
    have missed : loader.find name world = (none, (loader.find name world).2) :=
      Prod.ext answered.symm rfl
    refine Ensures.weaken (asked_openConventional loader name) fun opened? s spec => ?_
    split at spec
    case isTrue short =>
      obtain ⟨found, path, asked⟩ := spec
      rw [List.append_assoc] at asked
      refine ⟨_, _, _, .conventional missed short (Prod.ext found.symm rfl), ?_, asked⟩
      cases opened? with
      | none => rfl
      | some opened => simp [attempts, attempt?, opening, Act.call?, path opened rfl]
    case isFalse long =>
      obtain ⟨rfl, asked⟩ := spec
      exact ⟨_, _, _, .tooLong missed (Nat.not_lt.mp long), rfl, asked⟩

/-- A load into the empty slot opens nothing but what its search tries. -/
theorem resolves_load [Memory ω] (empty : contents.transport = none) (loader : ModuleLoader ω)
    (name : String) (config : Option String) :
    Ensures (Asked world past contents) (load loader name config) fun _ s =>
      ∃ tried found? last, Resolves loader name world tried found? last ∧
        attempts s.acts = attempts past ++ tried := by
  unfold load
  refine Ensures.bind Asked.get fun state => Ensures.given fun known => ?_
  rw [transport_of_slots known, empty]
  refine Ensures.bind (resolves_locate loader name) fun opened? => ?_
  refine Ensures.exists_intro fun tried => Ensures.exists_intro fun last => ?_
  refine Ensures.exists_intro fun acts => Ensures.given fun resolves => Ensures.given fun same => ?_
  subst same
  cases opened? with
  | none =>
    refine Ensures.bind Asked.note fun _ => Ensures.pure fun s asked => ⟨_, _, _, resolves, ?_⟩
    rw [asked.2.1, attempts_append]
  | some opened =>
    refine Ensures.bind (asked_start opened name config) fun started => ?_
    refine Ensures.exists_intro fun probes => Ensures.given fun probed => ?_
    have silent := attempts_probes probed
    cases started with
    | error cause =>
      refine Ensures.given fun _ => Ensures.bind Asked.record fun _ => ?_
      refine Ensures.pure fun s asked => ⟨_, _, _, resolves, ?_⟩
      rw [asked.2.1, attempts_then _ rfl, attempts_append, silent, List.append_nil, attempts_append]
    | ok made =>
      refine Ensures.given fun _ => Ensures.given fun _ => Ensures.given fun _ => ?_
      refine Ensures.exists_intro fun size => Ensures.bind Asked.setTransport fun _ => ?_
      refine Ensures.pure fun s asked => ⟨_, _, _, resolves, ?_⟩
      rw [asked.2.1, attempts_then _ rfl, ← List.append_assoc, attempts_then _ rfl, attempts_append,
        silent, List.append_nil, attempts_append]

theorem probed_isPresent (loader : ModuleLoader ω) (name : String) :
    Ensures (Asked world past contents) (isPresent loader name) fun present s =>
      ∃ calls, Probed loader name world calls present ∧
        Told (past ++ calls.map .call) contents s := by
  unfold isPresent
  refine Ensures.bind (asked_openConventional loader name) fun opened? => ?_
  by_cases short : (fileName name).utf8ByteSize < 4096
  · simp only [if_pos short]
    refine Ensures.given fun answered => Ensures.given fun path => ?_
    cases opened? with
    | none => exact Ensures.pure fun s asked => ⟨_, .missed short answered.symm, asked.2⟩
    | some opened =>
      refine Ensures.bind Asked.record fun _ => Ensures.pure fun s asked => ?_
      refine ⟨_, .opened short answered.symm opened.number, ?_⟩
      simpa [opening, path opened rfl] using asked.2
  · simp only [if_neg short]
    refine Ensures.given fun none => ?_
    subst none
    refine Ensures.pure fun s asked => ⟨_, .tooLong (Nat.not_lt.mp short), ?_⟩
    simpa using asked.2

end

/-! What the module that is found decides. -/

theorem startFailure_ne_location [Memory ω] (routine : StartRoutine ω) (config : Option String)
    (world : ω) :
    (startFailure routine config world).1 ≠ some .location := by
  by_cases refused : (routine none 0 config world).1.status ≠ 0
  · rw [startFailure_of_refused refused]
    exact nofun
  · cases room : (Buffer.available (routine none 0 config world).1.size
        (routine none 0 config world).2).1 with
    | false =>
      rw [startFailure_of_unallocated rfl refused room]
      exact nofun
    | true =>
      rw [startFailure_of_allocated rfl refused room]
      dsimp only
      split <;> exact nofun

/-- Whatever goes wrong with a module that was found, it was found. -/
theorem failure_ne_location [Memory ω] (found : NativeModule ω) (config : Option String)
    (world : ω) :
    (failure found config world).1 ≠ some .location := by
  unfold failure
  cases found.transport with
  | none => exact nofun
  | some plugin =>
    simp only [bind_apply]
    cases (plugin.info world).1 with
    | none => exact nofun
    | some info =>
      dsimp only
      cases info.value.start with
      | none => exact nofun
      | some routine => exact startFailure_ne_location routine config _

theorem Stage.error_eq_transportNotFound {stage : Stage} {name : String} :
    stage.error name = .transportNotFound name ↔ stage = .location := by
  cases stage <;> simp [Stage.error]

/-- A load into the empty slot fails just at the first stage that goes wrong. -/
theorem load_eq_error [Memory ω] {s : Platform ω} (empty : s.transport = none)
    {loader : ModuleLoader ω} {name : String} {config : Option String} {cause : Error} :
    (load loader name config s).1 = .error cause ↔
      ∃ stage, (firstFailure loader name config s.outside).1 = some stage ∧
        cause = stage.error name := by
  have vacant : (slots s).transport = none := empty
  have loaded := asked_load vacant loader name config s ⟨rfl, rfl, rfl⟩
  cases outcome : (load loader name config s).1 with
  | error failed =>
    rw [outcome] at loaded
    obtain ⟨⟨stage, first, rfl⟩, -⟩ := loaded
    simp [first, eq_comm]
  | ok context =>
    rw [outcome] at loaded
    simp [loaded.1]

theorem Resolves.firstFailure [Memory ω] {loader : ModuleLoader ω} {name : String} {world last : ω}
    {tried : List (String × Bool)} {found? : Option (NativeModule ω)}
    (resolves : Resolves loader name world tried found? last) (config : Option String) :
    (firstFailure loader name config world).1 =
      match found? with
      | none => some .location
      | some found => (failure found config last).1 := by
  simp only [Transport.firstFailure, bind_apply, resolves.search]
  cases found? <;> rfl

/-- A load into the empty slot uses what its search finds, and is refused for want of it just if
nothing is found. -/
theorem load_of_resolves [Memory ω] {s : Platform ω} (empty : s.transport = none)
    {loader : ModuleLoader ω}
    {name : String} {last : ω} {tried : List (String × Bool)} {found? : Option (NativeModule ω)}
    (resolves : Resolves loader name s.outside tried found? last) (config : Option String) :
    ((load loader name config s).1 = .error (.transportNotFound name) ↔ found? = none) ∧
    ∀ found, found? = some found → ∀ cause, (load loader name config s).1 = .error cause ↔
      ∃ stage, (failure found config last).1 = some stage ∧ cause = stage.error name := by
  simp only [load_eq_error empty, resolves.firstFailure config]
  cases found? with
  | none => simp [Stage.error]
  | some found =>
    have located := failure_ne_location found config last
    refine ⟨?_, by simp⟩
    simp only [reduceCtorEq, iff_false, not_exists, not_and]
    rintro stage failed same
    rw [Stage.error_eq_transportNotFound.mp same.symm] at failed
    exact located failed

/-! The modules that are left open. -/

/-- How many more modules were opened than closed. -/
def excess (acts : List Act) : Int :=
  (heard isOpening acts).length - (heard isClosing acts).length

theorem excess_append (first second : List Act) :
    excess (first ++ second) = excess first + excess second := by
  simp only [excess, heard_append, List.length_append]
  omega

theorem excess_missing (paths : List String) : excess (missing paths) = 0 := by
  rw [excess, heard_missing fun _ => rfl, heard_missing fun _ => rfl]
  rfl

theorem heard_calls (kind : Call → Bool) (calls : List Call) :
    heard kind (calls.map .call) = calls.filter kind := by
  simp [heard, List.filterMap_map, Function.comp_def, Act.call?]

theorem excess_probes {module : Nat} {probes : List Call}
    (probed : ∀ call ∈ probes, probesModule module call) : excess (probes.map .call) = 0 := by
  have idle (call : Call) (mine : call ∈ probes) := (idle_of_probes (probed call mine)).2
  have opens : probes.filter isOpening = [] :=
    List.filter_eq_nil_iff.mpr fun call mine => by simp [(idle call mine).1]
  have closes : probes.filter isClosing = [] :=
    List.filter_eq_nil_iff.mpr fun call mine => by simp [(idle call mine).2]
  rw [excess, heard_calls, heard_calls, opens, closes]
  rfl

theorem excess_releases (context : Context ω) (loaded : Bool) :
    excess (context.releases loaded) = 0 := by
  unfold Context.releases
  cases context.finalizer? <;> rfl

theorem excess_undone {acts : List Act} (undone : Undone acts) : excess acts = 0 := by
  cases undone with
  | missed paths => exact excess_missing paths
  | closed paths module path probes probed =>
    rw [List.append_cons, excess_append, excess_append, excess_append, excess_missing,
      excess_probes probed]
    rfl

theorem excess_begun {module : Nat} {context : Context ω} {acts : List Act}
    (begun : Begun module context acts) : excess acts = 1 := by
  cases begun with
  | intro paths path probes probed config size zeroed =>
    rw [List.append_cons, excess_append, excess_append, excess_append, excess_missing,
      excess_probes probed]
    rfl

theorem excess_probed {loader : ModuleLoader ω} {name : String} {world : ω} {calls : List Call}
    {present : Bool} (probed : Probed loader name world calls present) :
    excess (calls.map .call) = 0 := by
  cases probed <;> rfl

open Client

theorem excess_release (place : Nat) (rest : Context ω → Option (Context ω)) (s : Client ω) :
    excess (release place rest s).2.acts = excess s.acts := by
  rw [release_eq]
  cases s.contexts[place]?.join with
  | none => rfl
  | some context =>
    change excess (context.finalize s.toPlatform).2.acts = excess s.acts
    cases unfinished : context.finalized with
    | true =>
      rw [Context.finalize_eq]
      simp only [unfinished, if_true]
      rfl
    | false =>
      have told := Context.told_finalize unfinished s.toPlatform ⟨rfl, rfl⟩
      rw [told.1, excess_append, excess_releases, Int.add_zero]

/-- One operation leaves one more module open if it is a load that succeeds, and else none. -/
theorem excess_perform [Memory ω] (operation : Operation ω) (s : Client ω) :
    excess (operation.perform s).2.acts =
      excess s.acts + if (operation.perform s).1.isMade then 1 else 0 := by
  cases operation with
  | load loader name config =>
    let request : Request ω := ⟨loader, name, config⟩
    change excess (request.operation.perform s).2.acts =
      excess s.acts + if (request.operation.perform s).1.isMade then 1 else 0
    have loaded := told_load loader name config s.toPlatform ⟨rfl, rfl⟩
    cases answered : (request.run s.toPlatform).1 with
    | error cause =>
      rw [show (load loader name config s.toPlatform).1 = .error cause from answered] at loaded
      obtain ⟨acts, undone, -, told⟩ := loaded
      rw [request.perform_of_refused answered]
      change excess (load loader name config s.toPlatform).2.acts = _
      rw [told.1, excess_append, excess_undone undone]
      rfl
    | ok context =>
      rw [show (load loader name config s.toPlatform).1 = .ok context from answered] at loaded
      obtain ⟨-, -, module, info, acts, begun, told⟩ := loaded
      rw [request.perform_of_made answered]
      change excess (load loader name config s.toPlatform).2.acts = _
      rw [told.1, excess_append, excess_append, excess_begun begun]
      rfl
  | unload =>
    have told := told_unload s.toPlatform ⟨rfl, rfl⟩
    change excess (unload s.toPlatform).2.acts = _
    rw [told.1, excess_append]
    split <;> rfl
  | describe => exact (Int.add_zero _).symm
  | isLoaded => exact (Int.add_zero _).symm
  | isPresent loader name =>
    obtain ⟨calls, probed, told⟩ := probed_isPresent loader name s.toPlatform ⟨rfl, rfl, rfl⟩
    change excess (isPresent loader name s.toPlatform).2.acts = _
    rw [told.1, excess_append, excess_probed probed]
    rfl
  | finalize place => exact (excess_release place _ s).trans (Int.add_zero _).symm
  | drop place => exact (excess_release place _ s).trans (Int.add_zero _).symm
  | outside act => exact (Int.add_zero _).symm

/-- Whatever is done, the modules of loads that succeeded are left open, and no others. -/
theorem excess_after [Memory ω] (operations : List (Operation ω)) (s : Client ω) :
    excess (after operations s).acts =
      excess s.acts + (play operations s).1.countP Reply.isMade := by
  induction operations generalizing s with
  | nil => exact (Int.add_zero _).symm
  | cons operation rest ih =>
    have later := ih (operation.perform s).2
    rw [excess_perform] at later
    change excess (after rest (operation.perform s).2).acts = excess s.acts +
      ((operation.perform s).1 :: (play rest (operation.perform s).2).1).countP Reply.isMade
    rw [later, List.countP_cons]
    split <;> omega

/-- Into the empty slot a load tries the name as it stands first, and only if that does not open the
conventional file name, if it is short enough; it is refused for want of a module just if none
opens, and else everything depends on the one that did. A probe tries the conventional file name
alone, says whether it opens and closes it again, whatever is loaded. Over any history the modules
that succeeded loads have opened are left open and no others; and no two names share a file name. -/
theorem modules_resolved_and_balanced [Memory ω] (s : Client ω) :
    (∀ loader name config, s.transport = none → ∃ tried found? last,
      Resolves loader name s.outside tried found? last ∧
      attempts (load loader name config s.toPlatform).2.acts = attempts s.acts ++ tried ∧
      ((load loader name config s.toPlatform).1 = .error (.transportNotFound name) ↔
        found? = none) ∧
      ∀ found, found? = some found → ∀ cause,
        (load loader name config s.toPlatform).1 = .error cause ↔
          ∃ stage, (failure found config last).1 = some stage ∧ cause = stage.error name) ∧
    (∀ loader name, ∃ calls,
      Probed loader name s.outside calls (isPresent loader name s.toPlatform).1 ∧
      (isPresent loader name s.toPlatform).2.acts = s.acts ++ calls.map .call ∧
      slots (isPresent loader name s.toPlatform).2 = slots s.toPlatform) ∧
    (∀ operations, excess (after operations s).acts =
      excess s.acts + (play operations s).1.countP Reply.isMade) ∧
    ∀ first second path,
      libraryName? first = some path → libraryName? second = some path → first = second := by
  refine ⟨fun loader name config empty => ?_, fun loader name => ?_,
    fun operations => excess_after operations s, fun first second path one other => ?_⟩
  · have vacant : (slots s.toPlatform).transport = none := empty
    obtain ⟨tried, found?, last, resolves, told⟩ :=
      resolves_load vacant loader name config s.toPlatform ⟨rfl, rfl, rfl⟩
    exact ⟨tried, found?, last, resolves, told, load_of_resolves empty resolves config⟩
  · exact probed_isPresent loader name s.toPlatform ⟨rfl, rfl, rfl⟩
  · obtain ⟨rfl, -⟩ := libraryName?_eq_some.mp one
    exact fileName_injective (libraryName?_eq_some.mp other).1

theorem modules_resolved_and_balanced_unusable :
    (Client.mk (Platform.clean ()) []).transport = none ∧
    attempts (load (Answering.loader 5 0) "plain" none (Platform.clean ())).2.acts =
      [("plain", true)] ∧
    (load (Answering.loader 5 0) "plain" none (Platform.clean ())).1 ≠
      .error (.transportNotFound "plain") ∧
    excess (after [.load (Answering.loader 0 0) "plain" none,
      .isPresent (Answering.loader 0 0) "plain", .unload, .load (Answering.loader 5 0) "plain" none,
      .load (Answering.loader 0 0) "plain" none] ⟨Platform.clean (), []⟩).acts = 2 := by
  obtain ⟨resolved, -, balanced, -⟩ := modules_resolved_and_balanced ⟨Platform.clean (), []⟩
  refine ⟨rfl, ?_⟩
  obtain ⟨tried, found?, last, resolves, told, refused, -⟩ :=
    resolved (Answering.loader 5 0) "plain" none rfl
  have opened : tried = [("plain", true)] ∧ found? ≠ none := by
    cases resolves with
    | verbatim opens => exact ⟨rfl, nofun⟩
    | conventional missed short answers => cases missed
    | tooLong missed long => cases missed
  obtain ⟨rfl, found⟩ := opened
  refine ⟨told, fun missing => found (refused.mp missing), ?_⟩
  rw [balanced]
  decide +kernel

end CryptoProvider.Transport
