import CryptoProvider.Proofs.Engine.Attachment
import Mathlib.Data.List.Perm.Basic

/-!
The references to engines, counted over the calls made. An attempt to attach an engine leaves one of
each kind if it succeeds and none otherwise; whatever is then done with engines, each value that is
alive holds one of each kind, and everything else is even.
-/

set_option autoImplicit false

namespace CryptoProvider.Engine

open Ledger

variable {ω : Type}

/-- What a call adds to the structural references held. -/
def structural : Call → Int
  | .engineFind _ (some _) => 1
  | .engineFree _ => -1
  | _ => 0

def functional : Call → Int
  | .engineStart _ true => 1
  | .engineFinish _ => -1
  | _ => 0

def net (change : Call → Int) : List Call → Int
  | [] => 0
  | call :: rest => change call + net change rest

theorem net_append (change : Call → Int) (first second : List Call) :
    net change (first ++ second) = net change first + net change second := by
  induction first with
  | nil => simp [net]
  | cons call rest ih => simp [net, ih, Int.add_assoc]

theorem net_idle {change : Call → Int} {calls : List Call}
    (idle : ∀ call ∈ calls, change call = 0) : net change calls = 0 := by
  induction calls with
  | nil => rfl
  | cons call rest ih =>
    obtain ⟨one, others⟩ := List.forall_mem_cons.mp idle
    simp [net, one, ih others]

/-- Calls after which that many references of each kind are held. -/
structure Holding (count : Int) (calls : List Call) : Prop where
  structural : net structural calls = count
  functional : net functional calls = count

def Idle (call : Call) : Prop :=
  structural call = 0 ∧ functional call = 0

-- Calls that leave the references alone can be left out.
theorem Holding.skip {count : Int} (before : List Call) {middle last : List Call}
    (idle : ∀ call ∈ middle, Idle call) (holding : Holding count (before ++ last)) :
    Holding count (before ++ (middle ++ last)) := by
  obtain ⟨structurally, functionally⟩ := holding
  rw [net_append] at structurally functionally
  constructor
  · rw [net_append, net_append, net_idle fun call member => (idle call member).1, Int.zero_add,
      structurally]
  · rw [net_append, net_append, net_idle fun call member => (idle call member).2, Int.zero_add,
      functionally]

theorem idle_of_uses {engine : EngineRef} {call : Call} (uses : usesEngine engine call) :
    Idle call := by
  cases call <;> first | exact ⟨rfl, rfl⟩ | cases uses

theorem idle_of_refusal {engine : EngineRef} {call : Call} (refuses : refusesStart engine call) :
    Idle call := by
  obtain rfl := refuses
  exact ⟨rfl, rfl⟩

theorem idle_of_probes {module : Nat} {call : Call} (probes : probesModule module call) :
    Idle call := by
  cases call <;> first | exact ⟨rfl, rfl⟩ | cases probes

theorem idle_of_generates {generator : Nat} {call : Call} (uses : usesGenerator generator call) :
    Idle call := by
  cases call <;> first | exact ⟨rfl, rfl⟩ | cases uses

theorem holding_up (engine : EngineRef) {refusals uses tail : List Call} {count : Int}
    (refused : ∀ call ∈ refusals, refusesStart engine call)
    (used : ∀ call ∈ uses, usesEngine engine call)
    (holding : Holding count
      ([.engineFind engine.id (some engine), .engineStart engine true] ++ tail)) :
    Holding count
      (.engineFind engine.id (some engine) ::
        (refusals ++ .engineStart engine true :: (uses ++ tail))) :=
  .skip [_] (fun call member => idle_of_refusal (refused call member))
    (.skip [_, _] (fun call member => idle_of_uses (used call member)) holding)

/-- A value that is alive holds one reference of each kind. -/
theorem holding_of_started {number : Nat} {engine : EngineRef} {life : List Call}
    (lived : (Phase.engineStarted engine).Lived number life) : Holding 1 life := by
  obtain ⟨refusals, uses, refused, used, rfl⟩ := lived
  rw [← List.append_nil uses]
  exact holding_up engine refused used ⟨rfl, rfl⟩

/-- Whatever is over or may be left as it is holds no reference to an engine. -/
theorem holding_of_settled {number : Nat} {life : List Call} (settled : Settled number life) :
    Holding 0 life := by
  cases settled with
  | engineRefused engine refusals refused =>
    exact .skip [_] (fun call member => idle_of_refusal (refused call member)) ⟨rfl, rfl⟩
  | engineReleased engine refusals uses refused used =>
    exact holding_up engine refused used ⟨rfl, rfl⟩
  | moduleClosed path probes probed | moduleKept path plugin probes _ _ _ _ probed =>
    exact .skip [_] (fun call member => idle_of_probes (probed call member)) ⟨rfl, rfl⟩
  | generatorDropped uses used =>
    exact .skip [_] (fun call member => idle_of_generates (used call member)) ⟨rfl, rfl⟩
  | _ => exact ⟨rfl, rfl⟩

theorem uses_of_demand {api : EngineApi ω} {purpose : Purpose} {demand : Demand ω}
    (member : demand ∈ purpose.demands api) (engine : EngineRef) :
    usesEngine engine (demand.shows engine) := by
  cases purpose with
  | random =>
    obtain rfl := List.mem_singleton.mp member
    simp [Demand.setDefault, usesEngine]
  | suite config =>
    simp only [Purpose.demands, List.mem_append, List.mem_cons, List.mem_map, List.not_mem_nil,
      or_false] at member
    rcases member with (rfl | rfl) | ⟨request, -, rfl⟩
    · simp [Demand.digest, usesEngine]
    · simp [Demand.registerKeys, usesEngine]
    · simp [Demand.control, usesEngine]

theorem uses_of_pursued {engine : EngineRef} {demands : List (Demand ω)} {world last : ω}
    {calls : List Call} {refusal : Option Step}
    (pursued : Pursued engine world demands calls refusal last)
    (uses : ∀ demand ∈ demands, usesEngine engine (demand.shows engine)) :
    ∀ call ∈ calls, usesEngine engine call := by
  induction pursued with
  | done => exact fun call member => absurd member List.not_mem_nil
  | refused answered =>
    intro call member
    rw [List.mem_singleton.mp member]
    exact uses _ List.mem_cons_self
  | granted answered more ih =>
    refine List.forall_mem_cons.mpr ⟨uses _ List.mem_cons_self, ih ?_⟩
    exact fun demand member => uses demand (List.mem_cons_of_mem _ member)

theorem subjects_of_uses {engine : EngineRef} {call : Call} (uses : usesEngine engine call) :
    ∀ number ∈ call.subjects, number = engine.number := by
  cases call <;> simp_all [usesEngine, Call.subjects]

namespace Attempt

variable {api : EngineApi ω} {purpose : Purpose} {engine : EngineRef} {world last : ω}
  {calls : List Call} {answer : Except Error (Handle ω)}

/-- An attempt leaves one reference of each kind if it succeeds, and else none. -/
theorem holding (attempt : Attempt api purpose engine world calls answer last) :
    Holding (if answer.isOk then 1 else 0) calls := by
  cases attempt with
  | missed looked => exact ⟨rfl, rfl⟩
  | unstarted looked start => exact ⟨rfl, rfl⟩
  | refused looked start pursued =>
    have uses := uses_of_pursued pursued fun demand member => uses_of_demand member engine
    rw [List.append_assoc]
    exact .skip _ (fun call member => idle_of_uses (uses call member)) ⟨rfl, rfl⟩
  | @attached _ _ _ calls looked start pursued =>
    have uses := uses_of_pursued pursued fun demand member => uses_of_demand member engine
    rw [← List.append_nil calls]
    exact .skip _ (fun call member => idle_of_uses (uses call member)) ⟨rfl, rfl⟩

/-- An attempt is about the engine that it found, and about no other. -/
theorem about (attempt : Attempt api purpose engine world calls answer last) :
    ∀ call ∈ calls, ∀ number ∈ call.subjects, number = engine.number := by
  cases attempt with
  | missed looked => simp [Call.subjects]
  | unstarted looked start => simp [Call.subjects]
  | refused looked start pursued =>
    have uses := uses_of_pursued pursued fun demand member => uses_of_demand member engine
    have asked := fun call member => subjects_of_uses (uses call member)
    simp only [List.forall_mem_append]
    exact ⟨⟨by simp [Call.subjects], asked⟩, by simp [Call.subjects]⟩
  | attached looked start pursued =>
    have uses := uses_of_pursued pursued fun demand member => uses_of_demand member engine
    have asked := fun call member => subjects_of_uses (uses call member)
    simp only [List.forall_mem_append]
    exact ⟨by simp [Call.subjects], asked⟩

end Attempt

theorem life_append {s t : Platform ω} {calls : List Call}
    (told : t.acts = s.acts ++ calls.map .call) (number : Nat) :
    t.life number = s.life number ++ calls.filter fun call => number ∈ call.subjects := by
  have made : t.calls = s.calls ++ calls := by
    rw [calls_of_acts, told, List.filterMap_append, ← calls_of_acts]
    congr 1
    simp [List.filterMap_map, Function.comp_def, Act.call?]
  rw [Platform.life, made, List.filter_append, Platform.life]

-- What is not about a thing leaves its life as it was.
theorem life_unchanged {s t : Platform ω} {calls : List Call} {number other : Nat}
    (told : t.acts = s.acts ++ calls.map .call)
    (about : ∀ call ∈ calls, ∀ subject ∈ call.subjects, subject = number)
    (apart : other ≠ number) : t.life other = s.life other := by
  rw [life_append told, List.filter_eq_nil_iff.mpr, List.append_nil]
  intro call member mentioned
  exact apart (about call member other (of_decide_eq_true mentioned))

/-- Something done with engines, where those attached so far stand in a row. -/
inductive Deed (ω : Type) where
  | attach (api : EngineApi ω) (purpose : Purpose)
  | request (position : Nat) (algorithm : Int) (parameters : List (String × String))
  | drop (position : Nat)

namespace Deed

def perform (values : List (Value ω)) : Deed ω → StateM (Platform ω) (List (Value ω))
  | .attach api purpose => do
    match ← purpose.attach api with
    | .error _ => return values
    | .ok value => return value :: values
  | .request position algorithm parameters =>
    match values[position]? with
    | some (.suite alternate) => do
      let _ ← alternate.requestKey algorithm parameters
      return values
    | _ => return values
  | .drop position =>
    match values[position]? with
    | none => return values
    | some value => do
      value.drop
      return values.eraseIdx position

def performAll : List (Deed ω) → List (Value ω) → StateM (Platform ω) (List (Value ω))
  | [], values => return values
  | deed :: rest, values => do performAll rest (← deed.perform values)

end Deed

/-- The values are all that is held besides, and each is started. -/
def Kept (others : List Entry) (contents : Slots ω) (values : List (Value ω)) (s : Platform ω) :
    Prop :=
  (∀ value ∈ values, value.handle.started = true) ∧
    Books (values.map (fun value => value.handle.entry) ++ others) contents s

section

variable {others : List Entry} {contents : Slots ω} {values : List (Value ω)}

theorem books_attach (api : EngineApi ω) (purpose : Purpose) {rest : List Entry} :
    Ensures (Books rest contents) (purpose.attach api)
      (Handle.Attached Value.handle rest contents) := by
  cases purpose with
  | random =>
    refine Ensures.bind (HardwareRandom.books_attach api) fun answer => ?_
    cases answer <;> exact Ensures.pure fun _ attached => attached
  | suite config =>
    refine Ensures.bind (Suite.books_attach api config) fun answer => ?_
    cases answer <;> exact Ensures.pure fun _ attached => attached

-- The value at a position is brought to the front.
theorem entries_perm {position : Nat} {value : Value ω} (found : values[position]? = some value) :
    (values.map (fun value => value.handle.entry) ++ others).Perm
      (value.handle.entry ::
        ((values.eraseIdx position).map (fun value => value.handle.entry) ++ others)) := by
  obtain ⟨inside, rfl⟩ := List.getElem?_eq_some_iff.mp found
  have front := (List.getElem_cons_eraseIdx_perm inside).symm
  exact (front.map fun value => value.handle.entry).append_right others

/-- A deed keeps the books: what it attaches is held, and what it drops is not any more. -/
theorem kept_perform (deed : Deed ω) :
    Ensures (Kept others contents values) (deed.perform values) (Kept others contents) := by
  refine Ensures.given fun started => ?_
  cases deed with
  | attach api purpose =>
    refine Ensures.bind (books_attach api purpose) fun answer => ?_
    cases answer with
    | error cause => exact Ensures.pure fun _ books => ⟨started, books⟩
    | ok value =>
      exact Ensures.pure fun _ ⟨new, books⟩ => ⟨List.forall_mem_cons.mpr ⟨new, started⟩, books⟩
  | request position algorithm parameters =>
    simp only [Deed.perform]
    split
    case h_1 alternate found =>
      refine Ensures.bind (Ensures.strengthen (Suite.books_requestKey
        (started _ (List.mem_of_getElem? found)) algorithm parameters) fun _ books =>
          books.perm (entries_perm found)) fun _ => ?_
      exact Ensures.pure fun _ books => ⟨started, books.perm (entries_perm found).symm⟩
    case h_2 => exact Ensures.pure fun _ books => ⟨started, books⟩
  | drop position =>
    simp only [Deed.perform]
    split
    case h_1 => exact Ensures.pure fun _ books => ⟨started, books⟩
    case h_2 value found =>
      rw [value.drop_eq]
      refine Ensures.bind (Ensures.strengthen (Handle.books_drop value.handle) fun _ books =>
        books.perm (entries_perm found)) fun _ => ?_
      refine Ensures.pure fun _ books => ⟨fun other member => ?_, books⟩
      exact started other (List.mem_of_mem_eraseIdx member)

theorem kept_performAll (deeds : List (Deed ω)) :
    Ensures (Kept others contents values) (Deed.performAll deeds values) (Kept others contents) := by
  induction deeds generalizing values with
  | nil => exact Ensures.pure fun _ kept => kept
  | cons deed rest ih => exact Ensures.bind (kept_perform deed) fun _ => ih

/-- The engines that are attached. -/
def alive (values : List (Value ω)) : List Nat :=
  values.map fun value => value.handle.engine.number

theorem numbers_kept :
    numbers (values.map (fun value => value.handle.entry) ++ others) =
      alive values ++ numbers others := by
  simp only [numbers, alive, List.map_append, List.map_map]
  rfl

variable {s : Platform ω}

theorem holding_of_kept (kept : Kept others contents values s) :
    (alive values ++ numbers others).Nodup ∧
      (∀ number ∈ alive values, Holding 1 (s.life number)) ∧
      ∀ number, number ∉ alive values ++ numbers others →
        Settled number (s.life number) ∧ Holding 0 (s.life number) := by
  obtain ⟨started, accounts, -⟩ := kept
  refine ⟨numbers_kept ▸ accounts.distinct, fun number member => ?_, fun number absent => ?_⟩
  · obtain ⟨value, present, rfl⟩ := List.mem_map.mp member
    have lived := accounts.lived value.handle.entry
      (List.mem_append_left _ (List.mem_map_of_mem present))
    rw [Handle.entry_started (started value present)] at lived
    exact holding_of_started lived
  · have settled := accounts.settled number (numbers_kept ▸ absent)
    exact ⟨settled, holding_of_settled settled⟩

theorem asked_dropped (value : Value ω) (started : value.handle.started = true) :
    Asked (value.handle.parting s.outside).2 (s.acts ++ value.handle.releases) (slots s)
        (value.drop s).2 ∧
      ∀ number, number ≠ value.handle.engine.number → (value.drop s).2.life number = s.life number := by
  rw [value.drop_eq]
  have asked := Handle.asked_drop started s ⟨rfl, rfl, rfl⟩
  refine ⟨asked, fun number apart => ?_⟩
  have told : (value.handle.drop s).2.acts = s.acts ++
      [Call.engineFinish value.handle.engine, .engineFree value.handle.engine].map .call :=
    asked.2.1
  exact life_unchanged told (by simp [Call.subjects]) apart

end

/-- Attaching an engine is all or nothing. From any state, an attempt makes its demands in order and
stops at the first refusal, with nothing left to be given back; or it succeeds, and one reference of
each kind is held. Dropping the value gives back both, and neither is about any other thing. So
whatever is done with engines in a row, and whatever else is held meanwhile, each value alive holds
one reference of each kind, what was held before is as it was, and all the rest is settled. -/
theorem attach_all_or_nothing (s : Platform ω) :
    (∀ (api : EngineApi ω) (purpose : Purpose),
      let engine : EngineRef := ⟨s.next, purpose.id⟩
      let attached := purpose.attach api s
      ∃ calls last,
        Attempt api purpose engine s.outside calls (attached.1.map Value.handle) last ∧
        Asked last (s.acts ++ calls.map .call) (slots s) attached.2 ∧
        Holding (if attached.1.isOk then 1 else 0) calls ∧
        ∀ number, number ≠ engine.number → attached.2.life number = s.life number) ∧
    (∀ value : Value ω, value.handle.started = true →
      let dropped := value.drop s
      Asked (value.handle.parting s.outside).2 (s.acts ++ value.handle.releases) (slots s)
        dropped.2 ∧
      ∀ number, number ≠ value.handle.engine.number → dropped.2.life number = s.life number) ∧
    ∀ others : List Entry, Accounts others s → ∀ deeds : List (Deed ω),
      let run := Deed.performAll deeds [] s
      (alive run.1 ++ numbers others).Nodup ∧
      (∀ number ∈ alive run.1, Holding 1 (run.2.life number)) ∧
      (∀ number ∈ numbers others, run.2.life number = s.life number) ∧
      ∀ number, number ∉ alive run.1 ++ numbers others →
        Settled number (run.2.life number) ∧ Holding 0 (run.2.life number) := by
  refine ⟨fun api purpose => ?_, asked_dropped, fun others accounts deeds => ?_⟩
  · obtain ⟨calls, last, attempt, asked⟩ :=
      Purpose.attempted_attach api purpose s ⟨rfl, rfl, rfl, rfl⟩
    refine ⟨calls, last, attempt, asked, ?_, fun number apart => ?_⟩
    · have same : ((purpose.attach api s).1.map Value.handle).isOk =
          (purpose.attach api s).1.isOk := by
        cases (purpose.attach api s).1 <;> rfl
      exact same ▸ attempt.holding
    · exact life_unchanged asked.2.1 attempt.about apart
  · have initially : Kept (frozen others s) (slots s) [] s := ⟨nofun, accounts.freeze, rfl⟩
    have kept := kept_performAll deeds s initially
    obtain ⟨distinct, holding, settled⟩ := holding_of_kept kept
    rw [numbers_frozen] at distinct settled
    refine ⟨distinct, holding, fun number member => ?_, settled⟩
    obtain ⟨entry, present, rfl⟩ := List.mem_map.mp member
    exact kept.2.1.lived (entry.1, .retired (s.life entry.1))
      (List.mem_append_right _ (List.mem_map_of_mem present))

/-- An engine that can do everything but digest. -/
def digestless : EngineApi Unit where
  reported := true
  loadBuiltin _ := pure false
  find _ := pure true
  start _ := pure true
  setDefault _ _ := pure true
  digest _ _ := pure none
  registerKeys _ := pure true
  control _ _ _ := pure true
  finish _ := pure ()
  free _ := pure ()
  generateKey _ _ _ := pure ⟨false, .error .cryptoLibrary⟩

/-- The second attempt fails; of the values of the other two, the first is dropped. -/
def attempts : List (Deed Unit) :=
  [.attach digestless .random, .attach digestless (.suite .gost), .attach digestless .random,
    .drop 1]

theorem attach_all_or_nothing_attempts :
    let run := Deed.performAll attempts [] (Platform.clean ())
    alive run.1 = [2] ∧ Holding 1 (run.2.life 2) ∧ Holding 0 (run.2.life 1) ∧
      Settled 0 (run.2.life 0) := by
  intro run
  have standing : alive run.1 = [2] := by decide +kernel
  obtain ⟨-, -, history⟩ := attach_all_or_nothing (Platform.clean ())
  obtain ⟨-, holding, -, settled⟩ := history [] (Accounts.clean ()) attempts
  have absent (number : Nat) (other : number ≠ 2) : number ∉ alive run.1 ++ numbers [] := by
    rw [standing]
    simpa [numbers] using other
  refine ⟨standing, holding 2 ?_, (settled 1 (absent 1 (by decide))).2,
    (settled 0 (absent 0 (by decide))).1⟩
  exact standing ▸ List.mem_singleton.mpr rfl

end CryptoProvider.Engine
