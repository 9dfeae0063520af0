import CryptoProvider.Proofs.Factory.Trials
import CryptoProvider.Proofs.Triple

/-!
Each subsystem beside its trial: the program that brings it up succeeds exactly if the trial does,
whatever it writes down and gives back on the way.
-/

set_option autoImplicit false

namespace CryptoProvider

variable {ω : Type}

open Trial

namespace Locking.Bridge

theorem isOk_allocate [Memory ω] {world : ω} (count : Int) :
    Ensures (fun s => s.outside = world) (allocate count) fun made _ =>
      made.isOk = (decide (0 < count) && (Pool.available count.toNat world).1) := by
  rintro s rfl
  unfold allocate
  by_cases none : count ≤ 0
  · rw [if_pos none, decide_eq_false (by omega)]
    rfl
  · rw [if_neg none, decide_eq_true (by omega), Bool.true_and]
    change (if (Pool.available count.toNat s.outside).1 then Except.ok _ else _).isOk = _
    cases (Pool.available count.toNat s.outside).1 <;> rfl

theorem succeeds_bridge [Memory ω] (number : Nat) (s : Platform ω) :
    (Trial.bridge number).succeeds s = ((s.registry number).threadSafe ||
      (decide (0 < (s.registry number).lockCount) &&
        (Pool.available (s.registry number).lockCount.toNat s.outside).1)) := by
  have unfolded : (Trial.bridge number).succeeds s =
      (if (s.registry number).threadSafe then pure () else do
        must (0 < (s.registry number).lockCount)
        must (← ask (Pool.available (s.registry number).lockCount.toNat)) :
        Trial ω Unit).succeeds s := rfl
  rw [unfolded]
  cases (s.registry number).threadSafe with
  | true => rfl
  | false =>
    cases decide (0 < (s.registry number).lockCount) with
    | false => rfl
    | true => exact succeeds_must _ _

theorem isOk_setup [Memory ω] (number : Nat) (s : Platform ω) :
    (setup number s).1.isOk = (Trial.bridge number).succeeds s := by
  rw [succeeds_bridge]
  have answers : Ensures (· = s) (setup number) fun answer _ =>
      answer.isOk = ((s.registry number).threadSafe ||
        (decide (0 < (s.registry number).lockCount) &&
          (Pool.available (s.registry number).lockCount.toNat s.outside).1)) := by
    refine Ensures.read ?_
    rintro t rfl
    dsimp only
    cases (t.registry number).threadSafe with
    | true => exact Ensures.pure fun _ _ => rfl
    | false =>
      refine Ensures.step (Ensures.strengthen ?_ fun _ same => congrArg Platform.outside same)
      refine Ensures.bind (isOk_allocate _) fun allocated => ?_
      cases allocated with
      | error cause => exact Ensures.pure fun _ granted => granted
      | ok pool => exact fun _ granted => granted
  exact answers s rfl

end Locking.Bridge

theorem Compliance.tracks_enter {slot : Bool} (mode : ComplianceModule ω) :
    Tracks slot slot (enter mode) (Trial.compliance mode) (Same fun _ _ => True) := by
  apply Tracks.ask
  intro enabled
  apply Tracks.record
  cases enabled with
  | true =>
    apply Tracks.record
    apply Tracks.ask
    intro _
    exact Tracks.done trivial
  | false =>
    apply Tracks.ask
    intro done
    apply Tracks.record
    cases done with
    | false => exact Tracks.falls fun _ => trivial
    | true =>
      apply Tracks.note
      exact Tracks.passes trivial

namespace Engine

namespace Handle

variable {slot : Bool}

theorem tracks_find (api : EngineApi ω) (id : String) :
    Tracks slot slot (find api id) (Trial.found api id)
      (Same fun handle engine => handle = ⟨api, engine, false⟩) := by
  apply Tracks.ask
  intro known
  cases known with
  | false => exact Tracks.stops fun _ => trivial
  | true =>
    apply Tracks.goes
    apply Tracks.number
    intro number
    apply Tracks.record
    exact Tracks.done rfl

theorem tracks_start (handle : Handle ω) :
    Tracks slot slot handle.start (Trial.started handle.api handle.engine)
      (Same fun begun _ => begun = { handle with started := true }) := by
  apply Tracks.ask
  intro done
  apply Tracks.record
  cases done with
  | false => exact Tracks.falls fun _ => trivial
  | true => exact Tracks.passes rfl

theorem tracks_setDefault (handle : Handle ω) (methods : Nat) :
    Tracks slot slot (handle.setDefault methods)
      (Trial.ask (handle.api.setDefault handle.engine methods))
      fun agreed result => result = some agreed :=
  Tracks.record (Tracks.consulted _)

theorem tracks_digest (handle : Handle ω) (algorithm : Int) :
    Tracks slot slot (handle.digest? algorithm)
      (Trial.ask (handle.api.digest handle.engine algorithm))
      fun digest result => result = some digest :=
  Tracks.record (Tracks.consulted _)

theorem tracks_registerKeys (handle : Handle ω) :
    Tracks slot slot handle.registerKeys (Trial.ask (handle.api.registerKeys handle.engine))
      fun agreed result => result = some agreed :=
  Tracks.record (Tracks.consulted _)

theorem tracks_control (handle : Handle ω) (command argument : String) :
    Tracks slot slot (handle.control (some (command, argument)))
      (Trial.ask (handle.api.control handle.engine command argument))
      fun agreed result => result = some agreed :=
  Tracks.record (Tracks.consulted _)

end Handle

variable {slot : Bool}

theorem HardwareRandom.tracks_attach (api : EngineApi ω) :
    Tracks slot slot (attach api) (Trial.hardwareRandom api) (Same fun _ _ => True) := by
  apply Tracks.record
  apply Tracks.ask
  intro _
  refine (Handle.tracks_find api randomEngine).step (fun cause _ => ⟨cause, rfl⟩) ?_
  rintro _ engine rfl
  refine (Handle.tracks_start ⟨api, engine, false⟩).step (fun cause _ => ⟨cause, rfl⟩) ?_
  rintro _ _ rfl
  refine (Handle.tracks_setDefault ⟨api, engine, true⟩ randomMethod).both fun agreed => ?_
  cases agreed with
  | false => exact Tracks.falls fun _ => trivial
  | true =>
    apply Tracks.note
    exact Tracks.passes trivial

namespace Suite

theorem tracks_configure (handle : Handle ω) (config : SuiteConfig) :
    Tracks slot slot (configure handle config)
      (Trial.configured handle.api handle.engine config.control) (Same fun _ _ => True) := by
  refine (handle.tracks_digest suiteDigest).both fun digest => ?_
  cases digest with
  | none => exact Tracks.lacking fun _ => trivial
  | some digest =>
    apply Tracks.given
    refine handle.tracks_registerKeys.both fun registered => ?_
    cases registered with
    | false => exact Tracks.stops fun _ => trivial
    | true =>
      apply Tracks.goes
      rcases config.control with _ | ⟨command, argument⟩
      · exact Tracks.done trivial
      · refine (handle.tracks_control command argument).both fun agreed => ?_
        cases agreed with
        | false => exact Tracks.falls fun _ => trivial
        | true => exact Tracks.passes trivial

theorem tracks_attach (api : EngineApi ω) (config : SuiteConfig) :
    Tracks slot slot (attach api config) (Trial.suite api config) (Same fun _ _ => True) := by
  apply Tracks.record
  apply Tracks.ask
  intro _
  refine (Handle.tracks_find api config.id).step (fun cause _ => ⟨cause, rfl⟩) ?_
  rintro _ engine rfl
  refine (Handle.tracks_start ⟨api, engine, false⟩).step (fun cause _ => ⟨cause, rfl⟩) ?_
  rintro _ _ rfl
  refine (tracks_configure ⟨api, engine, true⟩ config).close (fun cause _ => ⟨cause, rfl⟩) ?_
  intro _ _ _
  apply Tracks.note
  exact Tracks.done trivial

end Suite

end Engine

variable {slot : Bool}

namespace OpenModule

theorem tracks_open (loader : ModuleLoader ω) (path : String) :
    Tracks slot slot (open? loader path) (Trial.exports loader path)
      fun opened found => opened.map exports = found := by
  apply Tracks.ask
  intro found
  cases found with
  | none => exact Tracks.lacking fun _ => rfl
  | some found =>
    apply Tracks.given
    apply Tracks.number
    intro number
    apply Tracks.record
    exact Tracks.done rfl

-- Where the module is needed.
theorem tracks_found {γ α : Type} {mid after : Bool}
    {opening : StateM (Platform ω) (Option (OpenModule ω))} {tried : Trial ω (NativeModule ω)}
    {rest : Option (OpenModule ω) → StateM (Platform ω) γ} {more : NativeModule ω → Trial ω α}
    {final : γ → Option α → Prop}
    (opens : Tracks slot mid opening tried fun opened found => opened.map exports = found)
    (missed : ∀ s, final (rest none s).1 none)
    (next : ∀ opened, Tracks mid after (rest (some opened)) (more opened.exports) final) :
    Tracks slot after (opening >>= rest) (tried >>= more) final := by
  refine opens.bind ?_ ?_
  · rintro (_ | opened) missing
    · exact missed
    · cases missing
  · rintro (_ | opened) _ ⟨⟩
    exact next opened

end OpenModule

theorem Buffer.tracks_allocate [Memory ω] (size : Nat) :
    Tracks (ω := ω) slot slot (allocate size) (Trial.allocated size)
      (Same fun buffer _ => buffer = ⟨size, none⟩) := by
  apply Tracks.ask
  intro granted
  cases granted with
  | false => exact Tracks.falls fun _ => trivial
  | true => exact Tracks.passes rfl

namespace Command.Library

theorem tracks_openAt (loader : ModuleLoader ω) (path : String) :
    Tracks slot slot (openAt loader path) (Trial.library loader path)
      (Same fun library entries => (library.contextSize, library.start) = entries) := by
  refine OpenModule.tracks_found (OpenModule.tracks_open loader path) (fun _ => trivial) ?_
  -- One entry point after the other.
  rintro ⟨number, path, reported, plugin, ⟨contextSize, start, nested, finalize⟩⟩
  rcases contextSize with _ | contextSize
  · exact Tracks.lacking fun _ => trivial
  apply Tracks.given
  rcases start with _ | start
  · exact Tracks.lacking fun _ => trivial
  apply Tracks.given
  rcases nested with _ | nested
  · exact Tracks.lacking fun _ => trivial
  apply Tracks.given
  rcases finalize with _ | finalize
  · exact Tracks.lacking fun _ => trivial
  apply Tracks.given
  exact Tracks.done rfl

end Command.Library

namespace Transport

theorem tracks_openConventional (loader : ModuleLoader ω) (name : String) :
    Tracks slot slot (openConventional loader name)
      (Trial.need (libraryName? name) >>= Trial.exports loader)
      fun opened found => opened.map OpenModule.exports = found := by
  unfold openConventional
  cases libraryName? name with
  | none => exact Tracks.lacking fun _ => rfl
  | some path =>
    apply Tracks.given
    exact OpenModule.tracks_open loader path

theorem tracks_locate (loader : ModuleLoader ω) (name : String) :
    Tracks slot slot (locate loader name) (Trial.located loader name)
      fun opened found => opened.map OpenModule.exports = found := by
  -- A transport that is not found by its name is looked for once more, so the first search is no
  -- step that has to succeed, and its calls are followed one by one.
  unfold locate OpenModule.open?
  rw [bind_assoc]
  apply Tracks.ask
  intro found
  cases found with
  | none =>
    simp only [bind_assoc, pure_bind]
    apply Tracks.record
    exact tracks_openConventional loader name
  | some found =>
    simp only [bind_assoc, pure_bind]
    apply Tracks.number
    intro number
    apply Tracks.record
    exact Tracks.done rfl

namespace Context

variable (opened : OpenModule ω) (plugin : TransportPlugin ω) (start : StartRoutine ω)
  (name : String) (config : Option String)

theorem tracks_querySize :
    Tracks slot slot (querySize opened plugin start name config) (Trial.sized start config)
      (Same fun size result => size = result) := by
  apply Tracks.ask
  intro reply
  apply Tracks.record
  exact Tracks.status (fun _ => trivial) (Tracks.done rfl)

theorem tracks_fill [Memory ω] (size : Nat) :
    Tracks slot slot (fill opened plugin start name config size) (Trial.filled start config size)
      (Same fun context number => context.number = number) := by
  unfold fill Trial.filled
  refine (Buffer.tracks_allocate size).step (fun cause _ => ⟨cause, rfl⟩) ?_
  rintro _ _ rfl
  apply Tracks.number
  intro number
  apply Tracks.ask
  intro reply
  apply Tracks.record
  exact Tracks.status (fun _ => trivial) (Tracks.done rfl)

end Context

theorem tracks_start [Memory ω] (opened : OpenModule ω) (name : String) (config : Option String) :
    Tracks slot slot (start opened name config) (Trial.begun opened.exports config)
      (Same fun result number => result.2.number = number) := by
  unfold start Trial.begun
  cases opened.exports.transport with
  | none => exact Tracks.lacking fun _ => trivial
  | some plugin =>
    apply Tracks.given
    apply Tracks.ask
    intro info
    apply Tracks.record
    cases info with
    | none => exact Tracks.lacking fun _ => trivial
    | some info =>
      apply Tracks.given
      -- Only the start routine is needed of the description.
      simp only [Platform.peek_eq, pure_bind]
      cases info.value.start with
      | none => exact Tracks.lacking fun _ => trivial
      | some routine =>
        apply Tracks.given
        refine (Context.tracks_querySize opened plugin routine name config).step
          (fun cause _ => ⟨cause, rfl⟩) ?_
        rintro size _ rfl
        refine (Context.tracks_fill opened plugin routine name config size).close
          (fun cause _ => ⟨cause, rfl⟩) ?_
        rintro context _ rfl
        exact Tracks.done rfl

theorem tracks_load [Memory ω] (loader : ModuleLoader ω) (spec : Spec) :
    Tracks true false (load loader spec.name spec.config) (Trial.transport loader spec)
      (Same fun context number => context.number = number) := by
  refine Tracks.vacant (fun s occupied => ?_) fun s empty => ?_
  · rw [if_pos occupied]
    trivial
  · rw [if_neg (by rw [empty]; exact Bool.false_ne_true)]
    refine OpenModule.tracks_found (tracks_locate loader spec.name) (fun _ => trivial) ?_
    intro opened
    refine (tracks_start opened spec.name spec.config).close (fun cause _ => ⟨cause, rfl⟩) ?_
    rintro ⟨info, context⟩ _ rfl
    apply Tracks.setTransport
    exact Tracks.done rfl

end Transport

namespace Command.Hardware

theorem tracks_bind [Memory ω] (library : Library ω) (transport : Transport.Context ω) :
    Tracks slot slot (bind library transport)
      (Trial.bound library.contextSize library.start transport.number) (Same fun _ _ => True) := by
  apply Tracks.ask
  intro size
  apply Tracks.record
  refine (Buffer.tracks_allocate size).step (fun cause _ => ⟨cause, rfl⟩) ?_
  rintro _ _ rfl
  apply Tracks.number
  intro number
  apply Tracks.ask
  intro status
  apply Tracks.record
  rw [← bind_pure (Trial.must _)]
  exact Tracks.status (fun _ => trivial) (Tracks.done trivial)

theorem tracks_bringUp [Memory ω] (loader : ModuleLoader ω) (path : String)
    (spec : Transport.Spec) :
    Tracks true false (bringUp loader path spec) (Trial.hardware loader path spec)
      (Same fun _ _ => True) := by
  refine (Library.tracks_openAt loader path).step (fun cause _ => ⟨cause, rfl⟩) ?_
  rintro library _ rfl
  refine (Transport.tracks_load loader spec).step (fun cause _ => ⟨cause, rfl⟩) ?_
  rintro transport _ rfl
  refine (tracks_bind library transport).close (fun cause _ => ⟨cause, rfl⟩) ?_
  intro _ _ _
  apply Tracks.note
  exact Tracks.done trivial

end Command.Hardware

end CryptoProvider
