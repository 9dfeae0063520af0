import CryptoProvider.Proofs.Ledger.Releases

/-!
Loading a transport, stage by stage. The collaborators' answers alone say at which stage a load
fails, if it does. A load that fails has closed the module it opened and left everything else as it
was; one that succeeds has filled the slot with what the plugin said about itself.
-/

set_option autoImplicit false

namespace CryptoProvider

open Ledger

variable {ω : Type}

namespace Transport

/-- The stages at which a load can fail, in their order, and what is reported of them. -/
inductive Stage where
  | location
  | symbol
  | description
  | routine
  | sizeQuery (status : Nat)
  | allocation (size : Nat)
  | start (status : Nat)
  deriving DecidableEq, Repr

def Stage.error (name : String) : Stage → Error
  | .location => .transportNotFound name
  | .symbol => .transportSymbolMissing infoSymbol name
  | .description | .routine => .transportInfoInvalid name
  | .sizeQuery status => .transportSizeQuery name status
  | .allocation size => .contextAllocation size
  | .start status => .transportStart name status

/-- What a transport's name leads to: as it stands, or else by the conventional file name. -/
def search (loader : ModuleLoader ω) (name : String) : StateM ω (Option (NativeModule ω)) := do
  match ← loader.find name with
  | some found => return some found
  | none =>
    match libraryName? name with
    | none => return none
    | some path => loader.find path

/-- The call of a plugin's start routine that fails, as it answers; none if a context is made. -/
def startFailure [Memory ω] (routine : StartRoutine ω) (config : Option String) :
    StateM ω (Option Stage) := do
  let query ← routine none 0 config
  if query.status ≠ 0 then return some (.sizeQuery query.status)
  let room ← Buffer.available query.size
  if room = false then return some (.allocation query.size)
  let reply ← routine (some ⟨query.size, none⟩) query.size config
  if reply.status ≠ 0 then return some (.start reply.status)
  return none

section

variable [Memory ω] {routine : StartRoutine ω} {config : Option String} {world : ω}

theorem startFailure_of_refused (refused : (routine none 0 config world).1.status ≠ 0) :
    startFailure routine config world =
      (some (.sizeQuery (routine none 0 config world).1.status),
        (routine none 0 config world).2) := by
  simp only [startFailure, bind_apply, if_pos refused]
  rfl

variable {query : StartReply ω} {queried : ω}
  (asked : routine none 0 config world = (query, queried)) (granted : ¬ query.status ≠ 0)

include asked granted

theorem startFailure_of_unallocated (short : (Buffer.available query.size queried).1 = false) :
    startFailure routine config world =
      (some (.allocation query.size), (Buffer.available query.size queried).2) := by
  simp only [startFailure, bind_apply, asked, if_neg granted, if_pos short]
  rfl

theorem startFailure_of_allocated (room : (Buffer.available query.size queried).1 = true) :
    startFailure routine config world =
      let reply := routine (some ⟨query.size, none⟩) query.size config
        (Buffer.available query.size queried).2
      (if reply.1.status ≠ 0 then some (.start reply.1.status) else none, reply.2) := by
  have enough : ¬ (Buffer.available query.size queried).1 = false := by simp [room]
  simp only [startFailure, bind_apply, asked, if_neg granted, if_neg enough]
  split <;> rfl

end

/-- The first stage that fails with a module that was found. -/
def failure [Memory ω] (found : NativeModule ω) (config : Option String) :
    StateM ω (Option Stage) := do
  match found.transport with
  | none => return some .symbol
  | some plugin =>
    match ← plugin.info with
    | none => return some .description
    | some info =>
      match info.value.start with
      | none => return some .routine
      | some routine => startFailure routine config

/-- The first stage at which a load fails, as the collaborators answer; none if it succeeds. -/
def firstFailure [Memory ω] (loader : ModuleLoader ω) (name : String) (config : Option String) :
    StateM ω (Option Stage) := do
  match ← search loader name with
  | none => return some .location
  | some found => failure found config

/-- What the plugin behind a name says about itself. -/
def offer (loader : ModuleLoader ω) (name : String) :
    StateM ω (Option (Static ω (TransportInfo ω))) := do
  match (← search loader name).bind NativeModule.transport with
  | none => return none
  | some plugin => plugin.info

def missing (paths : List String) : List Act :=
  paths.map fun path => .call (.moduleMissed path)

/-- The calls of one kind among what was done. -/
def heard (kind : Call → Bool) (acts : List Act) : List Call :=
  (acts.filterMap Act.call?).filter kind

theorem heard_append (kind : Call → Bool) (first second : List Act) :
    heard kind (first ++ second) = heard kind first ++ heard kind second := by
  simp [heard]

theorem heard_missing {kind : Call → Bool} (other : ∀ path, kind (.moduleMissed path) = false)
    (paths : List String) : heard kind (missing paths) = [] := by
  induction paths with
  | nil => rfl
  | cons path rest ih =>
    have apart : missing (path :: rest) = [.call (.moduleMissed path)] ++ missing rest := rfl
    rw [apart, heard_append, ih]
    simp [heard, Act.call?, other]

/-- Acts that come to nothing: no module was found, or one was found, probed and closed again. -/
inductive Undone : List Act → Prop where
  | missed (paths : List String) : Undone (missing paths)
  | closed (paths : List String) (module : Nat) (path : String) (probes : List Call)
      (probed : ∀ call ∈ probes, probesModule module call) :
      Undone (missing paths ++ .call (.moduleOpened module path) ::
        (probes.map .call ++ [.call (.moduleClosed module path)]))

/-- Acts that start a context: its module was found and probed, and is left open. -/
inductive Begun (module : Nat) (context : Context ω) : List Act → Prop where
  | intro (paths : List String) (path : String) (probes : List Call)
      (probed : ∀ call ∈ probes, probesModule module call) (config : Option String) (size : Nat)
      (zeroed : Bool) :
      Begun module context (missing paths ++ .call (.moduleOpened module path) ::
        (probes.map .call ++ [.call (.transportStart module context.plugin context.number config
          size zeroed 0)]))

section

variable {world : ω} {past : List Act} {contents : Slots ω}

theorem asked_open? (loader : ModuleLoader ω) (path : String) :
    Ensures (Asked world past contents) (OpenModule.open? loader path) fun opened? s =>
      opened?.map OpenModule.exports = (loader.find path world).1 ∧
        (∀ opened ∈ opened?, opened.path = path) ∧
        Asked (loader.find path world).2
          (past ++ [.call (match opened? with
            | none => .moduleMissed path
            | some opened => .moduleOpened opened.number opened.path)]) contents s := by
  unfold OpenModule.open?
  refine Ensures.bind Asked.consult fun found? => Ensures.given fun answered => ?_
  rw [← answered]
  cases found? with
  | none => exact Ensures.bind Asked.record fun _ => Ensures.pure fun _ asked => ⟨rfl, nofun, asked⟩
  | some found =>
    refine Ensures.bind Asked.fresh fun number => ?_
    refine Ensures.bind Asked.record fun _ => Ensures.pure fun _ asked => ⟨rfl, ?_, asked⟩
    rintro _ ⟨⟩
    rfl

-- Whatever is missed on the way, the search ends with a module or with none.
theorem asked_locate (loader : ModuleLoader ω) (name : String) :
    Ensures (Asked world past contents) (locate loader name) fun opened? s =>
      opened?.map OpenModule.exports = (search loader name world).1 ∧ ∃ paths,
        Asked (search loader name world).2
          (past ++ (missing paths ++ opened?.toList.map fun opened =>
            .call (.moduleOpened opened.number opened.path))) contents s := by
  unfold locate search
  refine Ensures.bind (asked_open? loader name) fun opened? => Ensures.given fun answered => ?_
  refine Ensures.given fun _ => ?_
  simp only [bind_apply, ← answered]
  cases opened? with
  | some opened => exact Ensures.pure fun _ asked => ⟨rfl, [], asked⟩
  | none =>
    unfold openConventional
    dsimp only [Option.map_none]
    cases libraryName? name with
    | none =>
      exact Ensures.bind Asked.note fun _ => Ensures.pure fun _ asked => ⟨rfl, [name], asked⟩
    | some path =>
      refine Ensures.weaken (asked_open? loader path) fun opened? s ⟨found, _, asked⟩ => ?_
      rw [List.append_assoc] at asked
      cases opened? with
      | none => exact ⟨found, [name, path], asked⟩
      | some opened => exact ⟨found, [name], asked⟩

theorem Buffer.asked_allocate [Memory ω] (size : Nat) :
    Ensures (Asked world past contents) (Buffer.allocate size) fun made s =>
      made = (if (Buffer.available size world).1 then .ok ⟨size, none⟩
        else .error (.contextAllocation size)) ∧
      Asked (Buffer.available size world).2 past contents s := by
  refine Ensures.bind Asked.consult fun granted => Ensures.given fun answered => ?_
  subst answered
  exact Ensures.pure fun _ asked => ⟨rfl, asked⟩

namespace Context

variable (opened : OpenModule ω) (plugin : TransportPlugin ω) (routine : StartRoutine ω)
  (name : String) (config : Option String)

theorem asked_querySize :
    Ensures (Asked world past contents) (querySize opened plugin routine name config) fun size s =>
      size = (if (routine none 0 config world).1.status ≠ 0 then
          .error (.transportSizeQuery name (routine none 0 config world).1.status)
        else .ok (routine none 0 config world).1.size) ∧
      Asked (routine none 0 config world).2
        (past ++ [.call (.transportSize opened.number plugin.label config
          (routine none 0 config world).1.status)]) contents s := by
  unfold querySize
  refine Ensures.bind Asked.consult fun reply => Ensures.given fun answered => ?_
  subst answered
  refine Ensures.bind Asked.record fun _ => ?_
  split
  · exact Ensures.bind Asked.note fun _ => Ensures.pure fun _ asked => ⟨rfl, asked⟩
  · exact Ensures.pure fun _ asked => ⟨rfl, asked⟩

section

variable [Memory ω]

theorem asked_fill_of_short {size : Nat} (short : (Buffer.available size world).1 = false) :
    Ensures (Asked world past contents) (fill opened plugin routine name config size)
      fun filled s => filled = .error (.contextAllocation size) ∧
        Asked (Buffer.available size world).2 past contents s := by
  refine Ensures.bind (Buffer.asked_allocate size) fun made => Ensures.given fun refused => ?_
  rw [short, if_neg Bool.false_ne_true] at refused
  subst refused
  exact Ensures.pure fun _ asked => ⟨rfl, asked⟩

-- The buffer is as large as was asked for, and the second call decides.
theorem asked_fill {size : Nat} (room : (Buffer.available size world).1 = true)
    {reply : StartReply ω} {after : ω}
    (replied : routine (some ⟨size, none⟩) size config (Buffer.available size world).2 =
      (reply, after)) :
    Ensures (Asked world past contents) (fill opened plugin routine name config size)
      fun filled s => ∃ number,
        Asked after
          (past ++ [.call (.transportStart opened.number plugin.label number config size true
            reply.status)]) contents s ∧
        match filled with
        | .ok context => reply.status = 0 ∧
            (context.number = number ∧ context.plugin = plugin.label ∧ context.size = size) ∧
              context.finalized = false
        | .error cause => reply.status ≠ 0 ∧ cause = .transportStart name reply.status := by
  refine Ensures.bind (Buffer.asked_allocate size) fun made => Ensures.given fun allocated => ?_
  rw [room, if_pos rfl] at allocated
  subst allocated
  refine Ensures.bind Asked.fresh fun number => ?_
  refine Ensures.bind Asked.consult fun answer => Ensures.given fun answered => ?_
  rw [replied] at answered ⊢
  subst answered
  refine Ensures.bind Asked.record fun _ => ?_
  split
  case isTrue refused =>
    refine Ensures.bind Asked.note fun _ => ?_
    exact Ensures.pure fun _ asked => ⟨number, asked, refused, rfl⟩
  case isFalse started =>
    exact Ensures.pure fun _ asked =>
      ⟨number, asked, Decidable.not_not.mp started, ⟨rfl, rfl, rfl⟩, rfl⟩

-- The two calls of a start routine, as `start` makes them once it knows the plugin's description.
theorem asked_make (info : Static ω (TransportInfo ω)) :
    Ensures (Asked world past contents)
      (do
        match ← querySize opened plugin routine name config with
        | .error cause => return .error cause
        | .ok size =>
          match ← fill opened plugin routine name config size with
          | .error cause => return .error cause
          | .ok context => return .ok (info, context) :
        StateM (Platform ω) (Except Error (Static ω (TransportInfo ω) × Context ω)))
      fun made s => ∃ probes : List Call, (∀ call ∈ probes, probesModule opened.number call) ∧
        match made with
        | .error cause =>
          (∃ stage, (startFailure routine config world).1 = some stage ∧
            cause = stage.error name) ∧
          Asked (startFailure routine config world).2 (past ++ probes.map .call) contents s
        | .ok (given, context) =>
          (startFailure routine config world).1 = none ∧ context.finalized = false ∧ given = info ∧
          ∃ size, Asked (startFailure routine config world).2
            (past ++ (probes.map .call ++ [.call (.transportStart opened.number context.plugin
              context.number config size true 0)])) contents s := by
  refine Ensures.bind (asked_querySize opened plugin routine name config) fun size =>
    Ensures.given fun answered => ?_
  have queried : ∀ call ∈ [Call.transportSize opened.number plugin.label config
      (routine none 0 config world).1.status], probesModule opened.number call := by
    simp [probesModule]
  split at answered
  case isTrue refused =>
    subst answered
    rw [startFailure_of_refused refused]
    exact Ensures.pure fun _ asked => ⟨_, queried, ⟨.sizeQuery _, rfl, rfl⟩, asked⟩
  case isFalse granted =>
    subst answered
    cases room : (Buffer.available (routine none 0 config world).1.size
        (routine none 0 config world).2).1 with
    | false =>
      rw [startFailure_of_unallocated rfl granted room]
      refine Ensures.bind (asked_fill_of_short opened plugin routine name config room) fun filled =>
        Ensures.given fun short => ?_
      subst short
      exact Ensures.pure fun _ asked => ⟨_, queried, ⟨.allocation _, rfl, rfl⟩, asked⟩
    | true =>
      rw [startFailure_of_allocated rfl granted room]
      refine Ensures.bind (asked_fill opened plugin routine name config room rfl) fun filled =>
        Ensures.exists_intro fun number => ?_
      rw [List.append_assoc]
      cases filled with
      | error cause =>
        refine Ensures.pure fun s left => ?_
        obtain ⟨asked, refused, same⟩ := left
        refine ⟨[.transportSize .., .transportStart ..], ?_, ⟨.start _, if_pos refused, same⟩, asked⟩
        simp [probesModule, refused]
      | ok context =>
        refine Ensures.pure fun s made => ?_
        obtain ⟨asked, started, ⟨numbered, named, -⟩, unfinished⟩ := made
        rw [started] at asked
        refine ⟨_, queried, if_neg (not_not_intro started), unfinished, rfl,
          (routine none 0 config world).1.size, ?_⟩
        rw [named, numbered]
        exact asked

end

end Context

theorem asked_start [Memory ω] (opened : OpenModule ω) (name : String) (config : Option String) :
    Ensures (Asked world past contents) (start opened name config) fun started s =>
      ∃ probes : List Call, (∀ call ∈ probes, probesModule opened.number call) ∧
      match started with
      | .error cause =>
        (∃ stage, (failure opened.exports config world).1 = some stage ∧
          cause = stage.error name) ∧
        Asked (failure opened.exports config world).2 (past ++ probes.map .call) contents s
      | .ok (info, context) =>
        (failure opened.exports config world).1 = none ∧ context.finalized = false ∧
        (∃ plugin, opened.exports.transport = some plugin ∧ (plugin.info world).1 = some info) ∧
        ∃ size, Asked (failure opened.exports config world).2
          (past ++ (probes.map .call ++ [.call (.transportStart opened.number context.plugin
            context.number config size true 0)])) contents s := by
  unfold start failure
  cases opened.exports.transport with
  | none =>
    refine Ensures.bind Asked.note fun _ => Ensures.pure fun _ asked => ?_
    exact ⟨[], by simp, ⟨.symbol, rfl, rfl⟩, (List.append_nil past).symm ▸ asked⟩
  | some plugin =>
    refine Ensures.bind Asked.consult fun info? => Ensures.given fun answered => ?_
    simp only [bind_apply, ← answered]
    refine Ensures.bind Asked.record fun _ => ?_
    have told : probesModule opened.number (.transportInfo opened.number plugin.label) := by
      simp [probesModule]
    have informed : ∀ call ∈ [Call.transportInfo opened.number plugin.label],
        probesModule opened.number call := List.forall_mem_singleton.mpr told
    cases info? with
    | none => exact Ensures.pure fun _ asked => ⟨_, informed, ⟨.description, rfl, rfl⟩, asked⟩
    | some info =>
      simp only [Platform.peek_eq, pure_bind]
      cases info.value.start with
      | none => exact Ensures.pure fun _ asked => ⟨_, informed, ⟨.routine, rfl, rfl⟩, asked⟩
      | some routine =>
        refine Ensures.weaken (Context.asked_make opened plugin routine name config info)
          fun made s spec => ?_
        obtain ⟨probes, probed, outcome⟩ := spec
        have all : ∀ call ∈ .transportInfo opened.number plugin.label :: probes,
            probesModule opened.number call := List.forall_mem_cons.mpr ⟨told, probed⟩
        rw [List.append_assoc] at outcome
        refine ⟨_, all, ?_⟩
        cases made with
        | error cause => exact outcome
        | ok made =>
          obtain ⟨succeeded, unfinished, rfl, size, asked⟩ := outcome
          rw [List.append_assoc] at asked
          exact ⟨succeeded, unfinished, ⟨plugin, rfl, answered.symm⟩, size, asked⟩

/-- What a load into the empty slot does, if it fails and if it succeeds. -/
theorem asked_load [Memory ω] (empty : contents.transport = none) (loader : ModuleLoader ω)
    (name : String) (config : Option String) :
    Ensures (Asked world past contents) (load loader name config) fun loaded s =>
      match loaded with
      | .error cause =>
        (∃ stage, (firstFailure loader name config world).1 = some stage ∧
          cause = stage.error name) ∧
        ∃ acts, Undone acts ∧
          Asked (firstFailure loader name config world).2 (past ++ acts) contents s
      | .ok context =>
        (firstFailure loader name config world).1 = none ∧ context.finalized = false ∧
        ∃ module info acts, (offer loader name world).1 = some info ∧
          Begun module context acts ∧
          Asked (firstFailure loader name config world).2
            (past ++ (acts ++ [.change (.transport (some module))]))
            { contents with transport := some ⟨module, info, name⟩ } s := by
  unfold load firstFailure offer
  refine Ensures.bind Asked.get fun state => Ensures.given fun known => ?_
  rw [transport_of_slots known, empty]
  refine Ensures.bind (asked_locate loader name) fun opened? => Ensures.given fun answered => ?_
  refine Ensures.exists_intro fun paths => ?_
  simp only [bind_apply, ← answered]
  cases opened? with
  | none =>
    refine Ensures.bind Asked.note fun _ => Ensures.pure fun _ asked => ?_
    have trace := asked.2
    simp only [Option.toList_none, List.map_nil, List.append_nil] at trace
    exact ⟨⟨.location, rfl, rfl⟩, _, .missed paths, asked.1, trace⟩
  | some opened =>
    refine Ensures.bind (asked_start opened name config) fun started => ?_
    refine Ensures.exists_intro fun probes => Ensures.given fun probed => ?_
    cases started with
    | error cause =>
      refine Ensures.given fun failed => ?_
      refine Ensures.bind Asked.record fun _ => Ensures.pure fun _ asked => ?_
      refine ⟨failed, _, .closed paths opened.number opened.path probes probed, ?_⟩
      simpa using asked
    | ok made =>
      refine Ensures.given fun succeeded => Ensures.given fun unfinished => ?_
      refine Ensures.given fun ⟨plugin, offered, described⟩ => Ensures.exists_intro fun size => ?_
      refine Ensures.bind Asked.setTransport fun _ => Ensures.pure fun _ asked => ?_
      refine ⟨succeeded, unfinished, opened.number, made.1, _, ?_,
        .intro paths opened.path probes probed config size true, ?_⟩
      · simpa [offered] using described
      · simpa using asked

theorem load_of_occupied [Memory ω] {s : Platform ω} (occupied : s.transport.isSome)
    (loader : ModuleLoader ω) (name : String) (config : Option String) :
    load loader name config s =
      (.error .transportOccupied, (Platform.note (.transportOccupied name) s).2) := by
  unfold load
  rw [bind_apply]
  exact congrFun (if_pos occupied) s

/-- What a load does to the shared slots, whatever they hold and whatever is answered. -/
theorem told_load [Memory ω] (loader : ModuleLoader ω) (name : String) (config : Option String) :
    Ensures (Told past contents) (load loader name config) fun loaded s =>
      match loaded with
      | .error _ => ∃ acts, Undone acts ∧ (contents.transport.isSome → acts = []) ∧
          Told (past ++ acts) contents s
      | .ok context => contents.transport = none ∧ context.finalized = false ∧
          ∃ module info acts, Begun module context acts ∧
            Told (past ++ (acts ++ [.change (.transport (some module))]))
              { contents with transport := some ⟨module, info, name⟩ } s := by
  intro s told
  cases empty : contents.transport with
  | some loaded =>
    have occupied : s.transport.isSome := by simp [transport_of_slots told.2, empty]
    rw [load_of_occupied occupied]
    refine ⟨[], .missed [], fun _ => rfl, ?_⟩
    simpa using Told.note s told
  | none =>
    have loaded := asked_load empty loader name config s ⟨rfl, told⟩
    cases outcome : (load loader name config s).1 with
    | error cause =>
      rw [outcome] at loaded
      obtain ⟨-, acts, undone, -, after⟩ := loaded
      exact ⟨acts, undone, nofun, after⟩
    | ok context =>
      rw [outcome] at loaded
      obtain ⟨-, unfinished, module, info, acts, -, begun, -, after⟩ := loaded
      exact ⟨rfl, unfinished, module, info, acts, begun, after⟩

end

/-! A loader that finds every module, in which all calls succeed but two: starting a transport
context and starting a command context answer as they are told to. -/

namespace Answering

def exports (transport command : Nat) : NativeModule Unit where
  transport := some
    { label := "plain"
      info := pure (some (.of ⟨2, none, none, none, some fun context _ _ =>
        pure ⟨if context.isNone then 0 else transport, 64, some (.of ⟨1, 2, some (pure ())⟩)⟩⟩)) }
  command :=
    { contextSize := some fun _ => pure 64
      start := some fun _ _ => pure command
      nestedTransport := some fun context => pure (0, some context.transport)
      finalize := some fun _ => pure () }

def loader (transport command : Nat) : ModuleLoader Unit :=
  ⟨true, fun _ => pure (some (exports transport command))⟩

end Answering

end Transport

end CryptoProvider
