import CryptoProvider.Command.Hardware
import CryptoProvider.Compliance
import CryptoProvider.Engine.HardwareRandom
import CryptoProvider.Engine.Suite
import CryptoProvider.Locking.Bridge

/-!
Trials: what has to succeed, step by step, for a subsystem to come up. A trial asks the collaborators
and stops at the first refusal; it keeps no trace, takes no care of what it found, and gives nothing
back. A subsystem comes up exactly if its trial succeeds.
-/

set_option autoImplicit false

namespace CryptoProvider

variable {ω : Type}

abbrev Trial (ω α : Type) := OptionT (StateM (Platform ω)) α

namespace Trial

variable {α β : Type}

def ask (answer : StateM ω α) : Trial ω α :=
  OptionT.lift (Platform.consult answer)

/-- The number that the next thing gets. -/
def number : Trial ω Nat :=
  OptionT.lift Platform.fresh

def need (value : Option α) : Trial ω α :=
  OptionT.mk (pure value)

def must (holds : Bool) : Trial ω Unit :=
  need (if holds then some () else none)

/-- The transport slot must be empty. -/
def vacant : Trial ω Unit := do
  must (← OptionT.lift get).transport.isNone

def succeeds (trial : Trial ω α) (s : Platform ω) : Bool :=
  (trial.run s).1.isSome

theorem succeeds_must (holds : Bool) (s : Platform ω) : (must holds).succeeds s = holds := by
  cases holds with
  | false => rfl
  | true => rfl

/-! What the subsystems try. -/

/-- A library that does not serialize its own state needs at least one lock, and memory for all. -/
def bridge [Memory ω] (number : Nat) : Trial ω Unit := do
  let registry := (← OptionT.lift get).registry number
  if registry.threadSafe then return ()
  must (0 < registry.lockCount)
  must (← ask (Locking.Pool.available registry.lockCount.toNat))

/-- Compliance mode is on already, which only asks for a fresh seed, or can be switched on. -/
def compliance (mode : ComplianceModule ω) : Trial ω Unit := do
  if ← ask mode.isEnabled then
    let _ ← ask mode.reseed
    return ()
  else
    must (← ask mode.enable)

def generator (source : GeneratorSource ω) : Trial ω Unit := do
  must (← ask source.create).isOk

def found (api : EngineApi ω) (id : String) : Trial ω EngineRef := do
  must (← ask (api.find id))
  return ⟨← number, id⟩

def started (api : EngineApi ω) (engine : EngineRef) : Trial ω Unit := do
  must (← ask (api.start engine))

/-- Whether the builtin engines can be loaded does not matter, here and for the suite. -/
def hardwareRandom (api : EngineApi ω) : Trial ω Unit := do
  let _ ← ask (api.loadBuiltin Engine.randomFlags)
  let engine ← found api Engine.randomEngine
  started api engine
  must (← ask (api.setDefault engine Engine.randomMethod))

def configured (api : EngineApi ω) (engine : EngineRef) (control : Option (String × String)) :
    Trial ω Unit := do
  let _ ← need (← ask (api.digest engine Engine.suiteDigest))
  must (← ask (api.registerKeys engine))
  match control with
  | none => return ()
  | some (command, argument) => must (← ask (api.control engine command argument))

def suite (api : EngineApi ω) (config : Engine.SuiteConfig) : Trial ω Unit := do
  let _ ← ask (api.loadBuiltin Engine.suiteFlags)
  let engine ← found api config.id
  started api engine
  configured api engine config.control

/-- A module is found under a path. -/
def exports (loader : ModuleLoader ω) (path : String) : Trial ω (NativeModule ω) := do
  let found ← need (← ask (loader.find path))
  let _ ← number
  return found

/-- A command library has all four entry points; two of them are used to bring it up. -/
def library (loader : ModuleLoader ω) (path : String) :
    Trial ω ((Nat → StateM ω Nat) × (CommandContext → AbiVersion → StateM ω Nat)) := do
  let found ← exports loader path
  let contextSize ← need found.command.contextSize
  let start ← need found.command.start
  let _ ← need found.command.nestedTransport
  let _ ← need found.command.finalize
  return (contextSize, start)

/-- A transport is found by its name, or else by the conventional name of its file. -/
def located (loader : ModuleLoader ω) (name : String) : Trial ω (NativeModule ω) := do
  match ← ask (loader.find name) with
  | some found =>
    let _ ← number
    return found
  | none => exports loader (← need (Transport.libraryName? name))

def allocated [Memory ω] (size : Nat) : Trial ω Unit := do
  must (← ask (Buffer.available size))

def sized (start : StartRoutine ω) (config : Option String) : Trial ω Nat := do
  let reply ← ask (start none 0 config)
  must (reply.status = 0)
  return reply.size

/-- The number of the context that is made. -/
def filled [Memory ω] (start : StartRoutine ω) (config : Option String) (size : Nat) :
    Trial ω Nat := do
  allocated size
  let context ← number
  let reply ← ask (start (some ⟨size, none⟩) size config)
  must (reply.status = 0)
  return context

def begun [Memory ω] (found : NativeModule ω) (config : Option String) : Trial ω Nat := do
  let plugin ← need found.transport
  let info ← need (← ask plugin.info)
  let start ← need info.value.start
  filled start config (← sized start config)

def transport [Memory ω] (loader : ModuleLoader ω) (spec : Transport.Spec) : Trial ω Nat := do
  vacant
  begun (← located loader spec.name) spec.config

def bound [Memory ω] (contextSize : Nat → StateM ω Nat)
    (start : CommandContext → AbiVersion → StateM ω Nat)
    (transport : Nat) : Trial ω Unit := do
  let size ← ask (contextSize 0)
  allocated size
  let context : CommandContext := ⟨← number, size, transport⟩
  must ((← ask (start context AbiVersion.current)) = 0)

def hardware [Memory ω] (loader : ModuleLoader ω) (path : String) (spec : Transport.Spec) :
    Trial ω Unit := do
  let (contextSize, start) ← library loader path
  bound contextSize start (← transport loader spec)

/-! A program beside its trial. -/

/-- A platform beside that of a trial, as far as the collaborators and the numbers go; and the
transport slot as long as it is still to be looked at. -/
structure Near (slot : Bool) (s t : Platform ω) : Prop where
  outside : s.outside = t.outside
  next : s.next = t.next
  transport : slot = true → s.transport = t.transport

/-- A program's result agrees with that of its trial; if there is one, they go on side by side. -/
def Tracks {γ : Type} (slot after : Bool) (program : StateM (Platform ω) γ) (trial : Trial ω β)
    (agree : γ → Option β → Prop) : Prop :=
  ∀ s t, Near slot s t → agree (program s).1 (trial.run t).1 ∧
    ((trial.run t).1.isSome = true → Near after (program s).2 (trial.run t).2)

/-- There is a value on both sides, or an error on one and nothing on the other. -/
def Same (same : α → β → Prop) : Except Error α → Option β → Prop
  | .ok first, some second => same first second
  | .error _, none => True
  | _, _ => False

namespace Tracks

variable {γ δ : Type} {slot mid after : Bool} {agree : γ → Option β → Prop}
  {program : StateM (Platform ω) γ} {trial : Trial ω β}

theorem bind {rest : γ → StateM (Platform ω) δ} {more : β → Trial ω α}
    {final : δ → Option α → Prop} (first : Tracks slot mid program trial agree)
    (refused : ∀ answer, agree answer none → ∀ s, final (rest answer s).1 none)
    (next : ∀ answer value, agree answer (some value) →
      Tracks mid after (rest answer) (more value) final) :
    Tracks slot after (program >>= rest) (trial >>= more) final := by
  intro s t near
  obtain ⟨agrees, still⟩ := first s t near
  have unfolded : (trial >>= more).run t =
      ((trial.run t).1.elim (pure none) fun value => (more value).run) (trial.run t).2 := by
    rw [OptionT.run_bind]
    rfl
  rw [unfolded]
  cases found : (trial.run t).1 with
  | none =>
    rw [found] at agrees
    exact ⟨refused _ agrees _, nofun⟩
  | some value =>
    rw [found] at agrees still
    exact next _ value agrees _ _ (still rfl)

theorem done {answer : γ} {value : β} (agrees : agree answer (some value)) :
    Tracks (ω := ω) slot slot (pure answer) (pure value) agree :=
  fun _ _ near => ⟨agrees, fun _ => near⟩

-- What the trial has too, and with the same answer.
theorem both {first : StateM (Platform ω) α} {tried : Trial ω α}
    {rest : α → StateM (Platform ω) γ} {more : α → Trial ω β}
    (same : Tracks slot mid first tried fun answer result => result = some answer)
    (next : ∀ value, Tracks mid after (rest value) (more value) agree) :
    Tracks slot after (first >>= rest) (tried >>= more) agree := by
  refine same.bind nofun ?_
  rintro answer _ ⟨⟩
  exact next answer

theorem consulted (answer : StateM ω α) :
    Tracks slot slot (Platform.consult answer) (Trial.ask answer) fun value result =>
      result = some value := by
  rintro s t ⟨outside, next, transport⟩
  constructor
  · change some (answer t.outside).1 = some (answer s.outside).1
    rw [outside]
  · refine fun _ => ⟨?_, next, transport⟩
    change (answer s.outside).2 = (answer t.outside).2
    rw [outside]

theorem numbered :
    Tracks (ω := ω) slot slot Platform.fresh Trial.number fun value result =>
      result = some value := by
  rintro s t ⟨outside, next, transport⟩
  exact ⟨congrArg some next.symm, fun _ => ⟨outside, congrArg (· + 1) next, transport⟩⟩

theorem ask {rest : α → StateM (Platform ω) γ} {more : α → Trial ω β} (answer : StateM ω α)
    (next : ∀ value, Tracks slot after (rest value) (more value) agree) :
    Tracks slot after (Platform.consult answer >>= rest) (Trial.ask answer >>= more) agree :=
  (consulted answer).both next

theorem number {rest : Nat → StateM (Platform ω) γ} {more : Nat → Trial ω β}
    (next : ∀ value, Tracks slot after (rest value) (more value) agree) :
    Tracks slot after (Platform.fresh >>= rest) (Trial.number >>= more) agree :=
  numbered.both next

-- What the program writes down is not looked at by the trial.
theorem skip {quiet : StateM (Platform ω) PUnit} {rest : PUnit → StateM (Platform ω) γ}
    (kept : mid = true → slot = true) (beside : ∀ s, Near mid (quiet s).2 s)
    (next : Tracks mid after (rest ⟨⟩) trial agree) :
    Tracks slot after (quiet >>= rest) trial agree := by
  intro s t near
  obtain ⟨outside, number, transport⟩ := beside s
  exact next _ t ⟨outside.trans near.outside, number.trans near.next,
    fun still => (transport still).trans (near.transport (kept still))⟩

theorem record {reported : Bool} {call : Call} {rest : PUnit → StateM (Platform ω) γ}
    (next : Tracks slot after (rest ⟨⟩) trial agree) :
    Tracks slot after (Platform.record reported call >>= rest) trial agree :=
  skip id (fun _ => ⟨rfl, rfl, fun _ => rfl⟩) next

theorem note {notice : Notice} {rest : PUnit → StateM (Platform ω) γ}
    (next : Tracks slot after (rest ⟨⟩) trial agree) :
    Tracks slot after (Platform.note notice >>= rest) trial agree :=
  skip id (fun _ => ⟨rfl, rfl, fun _ => rfl⟩) next

-- Once the slot is filled it is not looked at any more.
theorem setTransport {loaded : Option (Transport.Loaded ω)}
    {rest : PUnit → StateM (Platform ω) γ}
    (next : Tracks false after (rest ⟨⟩) trial agree) :
    Tracks slot after (Platform.setTransport loaded >>= rest) trial agree := by
  have beside (s : Platform ω) : Near false (Platform.setTransport loaded s).2 s :=
    ⟨rfl, rfl, nofun⟩
  exact skip Bool.noConfusion beside next

theorem given {found : α} {more : α → Trial ω β}
    (next : Tracks slot after program (more found) agree) :
    Tracks slot after program (Trial.need (some found) >>= more) agree :=
  next

theorem lacking {more : α → Trial ω β} (refused : ∀ s, agree (program s).1 none) :
    Tracks slot after program (Trial.need none >>= more) agree :=
  fun s _ _ => ⟨refused s, nofun⟩

theorem goes {more : Unit → Trial ω β} (next : Tracks slot after program (more ()) agree) :
    Tracks slot after program (Trial.must true >>= more) agree :=
  next

theorem stops {more : Unit → Trial ω β} (refused : ∀ s, agree (program s).1 none) :
    Tracks slot after program (Trial.must false >>= more) agree :=
  lacking refused

-- A call that reports success by the status zero.
theorem status {status : Nat} {failing going : StateM (Platform ω) γ} {more : Unit → Trial ω β}
    (refused : ∀ s, agree (failing s).1 none) (next : Tracks slot after going (more ()) agree) :
    Tracks slot after (if status ≠ 0 then failing else going)
      (Trial.must (decide (status = 0)) >>= more) agree := by
  by_cases agreed : status = 0
  · rw [decide_eq_true agreed, if_neg (not_not_intro agreed)]
    exact goes next
  · rw [decide_eq_false agreed, if_pos agreed]
    exact stops refused

-- The last thing that has to hold.
theorem passes {answer : γ} {agree : γ → Option Unit → Prop} (agrees : agree answer (some ())) :
    Tracks (ω := ω) slot slot (pure answer) (Trial.must true) agree :=
  done agrees

theorem falls {agree : γ → Option Unit → Prop} (refused : ∀ s, agree (program s).1 none) :
    Tracks slot after program (Trial.must false) agree :=
  fun s _ _ => ⟨refused s, nofun⟩

theorem vacant {rest : Platform ω → StateM (Platform ω) γ} {more : Unit → Trial ω β}
    (occupied : ∀ s, s.transport.isSome = true → agree (rest s s).1 none)
    (empty : ∀ s, s.transport.isSome = false → Tracks true after (rest s) (more ()) agree) :
    Tracks true after (MonadState.get >>= rest) (Trial.vacant >>= more) agree := by
  intro s t near
  have same : s.transport = t.transport := near.transport rfl
  have unfolded : (Trial.vacant >>= more).run t =
      (Trial.must t.transport.isNone >>= more).run t := rfl
  rw [unfolded]
  cases filled : s.transport with
  | none =>
    have free : t.transport.isNone = true := by rw [← same, filled]; rfl
    rw [free]
    exact empty s (by rw [filled]; rfl) s t near
  | some loaded =>
    have taken : t.transport.isNone = false := by rw [← same, filled]; rfl
    rw [taken]
    exact ⟨occupied s (by rw [filled]; rfl), nofun⟩

-- What can fail on both sides. The program may tidy up, but then fails too.
theorem step {first : StateM (Platform ω) (Except Error γ)} {same : γ → β → Prop}
    {rest : Except Error γ → StateM (Platform ω) (Except Error δ)} {more : β → Trial ω α}
    {final : δ → α → Prop} (tracks : Tracks slot mid first trial (Same same))
    (fails : ∀ cause s, ∃ failure, (rest (.error cause) s).1 = .error failure)
    (next : ∀ answer value, same answer value →
      Tracks mid after (rest (.ok answer)) (more value) (Same final)) :
    Tracks slot after (first >>= rest) (trial >>= more) (Same final) := by
  refine tracks.bind ?_ ?_
  · rintro (cause | answer) agrees s
    · obtain ⟨failure, failed⟩ := fails cause s
      rw [failed]
      trivial
    · exact agrees.elim
  · rintro (cause | answer) value agrees
    · exact agrees.elim
    · exact next answer value agrees

theorem close {first : StateM (Platform ω) (Except Error γ)} {same : γ → β → Prop}
    {rest : Except Error γ → StateM (Platform ω) (Except Error δ)} {final : δ → β → Prop}
    (tracks : Tracks slot mid first trial (Same same))
    (fails : ∀ cause s, ∃ failure, (rest (.error cause) s).1 = .error failure)
    (next : ∀ answer value, same answer value →
      Tracks mid after (rest (.ok answer)) (pure value) (Same final)) :
    Tracks slot after (first >>= rest) trial (Same final) := by
  rw [← bind_pure trial]
  exact tracks.step fails next

theorem succeeds {answer : StateM (Platform ω) (Except Error γ)} {same : γ → β → Prop}
    (tracks : Tracks true after answer trial (Same same)) (s : Platform ω) :
    (answer s).1.isOk = trial.succeeds s := by
  have agrees := (tracks s s ⟨rfl, rfl, fun _ => rfl⟩).1
  unfold Trial.succeeds
  cases program : (answer s).1 <;> cases tried : (trial.run s).1 <;> rw [program, tried] at agrees
  case error.none => rfl
  case ok.some => rfl
  all_goals exact agrees.elim

end Tracks

end Trial

end CryptoProvider
