import CryptoProvider.Proofs.Ledger.Bridge
import CryptoProvider.Proofs.Ledger.Engine
import CryptoProvider.Proofs.Ledger.Hardware

/-!
What letting a thing go does, exactly: the calls made and the shared slots changed, in their
order. What the operator is told in between is left out.
-/

set_option autoImplicit false

namespace CryptoProvider

open Ledger

variable {ω : Type}

/-- Something done: a call to a collaborator, or a change of a slot that the whole process shares.
-/
inductive Act where
  | call (call : Call)
  | change (change : Change)
  deriving DecidableEq, Repr

def Event.act? : Event → Option Act
  | .call _ made => some (.call made)
  | .change made => some (.change made)
  | .notice _ => none

def Act.call? : Act → Option Call
  | .call made => some made
  | .change _ => none

def Platform.acts (s : Platform ω) : List Act :=
  s.events.filterMap Event.act?

theorem Ledger.calls_of_acts (s : Platform ω) : s.calls = s.acts.filterMap Act.call? := by
  rw [Platform.calls, Platform.acts, List.filterMap_filterMap]
  congr 1
  funext event
  cases event <;> rfl

/-- The acts so far, and the contents of the shared slots. -/
def Told (past : List Act) (contents : Slots ω) (s : Platform ω) : Prop :=
  s.acts = past ∧ slots s = contents

namespace Told

variable {past : List Act} {contents : Slots ω}

theorem acts_push (s : Platform ω) (event : Event) :
    Platform.acts { s with trace := event :: s.trace } = s.acts ++ event.act?.toList := by
  simp only [Platform.acts, Platform.events, List.reverse_cons, List.filterMap_append]
  cases event <;> rfl

theorem consult {α : Type} {answer : StateM ω α} :
    Ensures (Told past contents) (Platform.consult answer) fun _ => Told past contents :=
  fun _ told => told

theorem fresh :
    Ensures (Told past contents) Platform.fresh fun _ => Told past contents :=
  fun _ told => told

theorem get :
    Ensures (Told past contents) MonadState.get fun value s =>
      slots value = contents ∧ Told past contents s :=
  fun _ told => ⟨told.2, told⟩

theorem note {notice : Notice} :
    Ensures (Told past contents) (Platform.note notice) fun _ => Told past contents := by
  rintro s ⟨rfl, known⟩
  exact ⟨(acts_push s (.notice notice)).trans (List.append_nil _), known⟩

theorem record {reported : Bool} {call : Call} :
    Ensures (Told past contents) (Platform.record reported call) fun _ =>
      Told (past ++ [.call call]) contents := by
  rintro s ⟨rfl, known⟩
  exact ⟨acts_push s (.call reported call), known⟩

theorem setTransport {loaded : Option (Transport.Loaded ω)} :
    Ensures (Told past contents) (Platform.setTransport loaded) fun _ =>
      Told (past ++ [.change (.transport (loaded.map Transport.Loaded.module))])
        { contents with transport := loaded } := by
  rintro s ⟨rfl, rfl⟩
  exact ⟨acts_push s (.change _), rfl⟩

theorem setPool {pool : Option Locking.Published} :
    Ensures (Told past contents) (Platform.setPool pool) fun _ =>
      Told (past ++ [.change (.pool (pool.map Locking.Published.number))])
        { contents with pool } := by
  rintro s ⟨rfl, rfl⟩
  exact ⟨acts_push s (.change _), rfl⟩

theorem writeCallback {number : Nat} {callback : Option Locking.Callback} :
    Ensures (Told past contents) (Platform.writeCallback number callback) fun _ =>
      Told past (contents.setCallback number callback) := by
  rintro s ⟨rfl, rfl⟩
  exact ⟨rfl, rfl⟩

end Told

/-- The outside world, the acts so far, and the contents of the shared slots. -/
def Asked (world : ω) (past : List Act) (contents : Slots ω) (s : Platform ω) : Prop :=
  s.outside = world ∧ Told past contents s

namespace Asked

variable {world : ω} {past : List Act} {contents : Slots ω}

theorem consult {α : Type} {answer : StateM ω α} :
    Ensures (Asked world past contents) (Platform.consult answer) fun value s =>
      value = (answer world).1 ∧ Asked (answer world).2 past contents s := by
  rintro s ⟨rfl, told⟩
  exact ⟨rfl, rfl, told⟩

theorem of_told {α : Type} {program : StateM (Platform ω) α} {acts : List Act} {after : Slots ω}
    (spec : Ensures (Told past contents) program fun _ => Told acts after)
    (quiet : ∀ s, (program s).2.outside = s.outside) :
    Ensures (Asked world past contents) program fun _ => Asked world acts after :=
  fun s asked => ⟨(quiet s).trans asked.1, spec s asked.2⟩

-- What holds in every outside world needs none to be named.
theorem forget {α : Type} {program : StateM (Platform ω) α} {after : α → Platform ω → Prop}
    (spec : ∀ world, Ensures (Asked world past contents) program after) :
    Ensures (Told past contents) program after :=
  fun s told => spec s.outside s ⟨rfl, told⟩

theorem record {reported : Bool} {call : Call} :
    Ensures (Asked world past contents) (Platform.record reported call) fun _ =>
      Asked world (past ++ [.call call]) contents :=
  of_told Told.record fun _ => rfl

theorem note {notice : Notice} :
    Ensures (Asked world past contents) (Platform.note notice) fun _ =>
      Asked world past contents :=
  of_told Told.note fun _ => rfl

theorem fresh :
    Ensures (Asked world past contents) Platform.fresh fun _ => Asked world past contents :=
  of_told Told.fresh fun _ => rfl

theorem setTransport {loaded : Option (Transport.Loaded ω)} :
    Ensures (Asked world past contents) (Platform.setTransport loaded) fun _ =>
      Asked world (past ++ [.change (.transport (loaded.map Transport.Loaded.module))])
        { contents with transport := loaded } :=
  of_told Told.setTransport fun _ => rfl

theorem get :
    Ensures (Asked world past contents) MonadState.get fun value s =>
      slots value = contents ∧ Asked world past contents s :=
  fun _ asked => ⟨asked.2.2, asked⟩

end Asked

variable {world : ω} {past : List Act} {contents : Slots ω}

namespace Engine.Handle

def releases (handle : Handle ω) : List Act :=
  [.call (.engineFinish handle.engine), .call (.engineFree handle.engine)]

/-- What is asked of an engine as both references to it are given back. -/
def parting (handle : Handle ω) : StateM ω Unit := do
  handle.api.finish handle.engine
  handle.api.free handle.engine

theorem asked_drop {handle : Handle ω} (started : handle.started = true) :
    Ensures (Asked world past contents) handle.drop fun _ =>
      Asked (handle.parting world).2 (past ++ handle.releases) contents := by
  unfold drop
  simp only [started, if_true]
  refine Ensures.bind Asked.record fun _ => ?_
  refine Ensures.bind Asked.consult fun _ => Ensures.given fun _ => ?_
  refine Ensures.bind Asked.record fun _ => ?_
  rw [List.append_assoc]
  exact Asked.consult.weaken fun _ _ asked => asked.2

theorem told_drop {handle : Handle ω} (started : handle.started = true) :
    Ensures (Told past contents) handle.drop fun _ =>
      Told (past ++ handle.releases) contents :=
  Asked.forget fun _ => (asked_drop started).weaken fun _ _ asked => asked.2

end Engine.Handle

namespace Transport

/-- How a transport context is finalized, where `loaded` says whether a transport is still loaded.
-/
def Context.releases (context : Context ω) (loaded : Bool) : List Act :=
  match context.finalizer? with
  | none => []
  | some (magic, _) => [.call (.transportFinalize context.plugin context.number magic loaded)]

/-- What a context's finalizer does outside; nothing if there is none to run. -/
def Context.finalizing (context : Context ω) : StateM ω Unit :=
  match context.finalizer? with
  | none => pure ()
  | some (_, finalizer) => finalizer

theorem Context.asked_finalize {context : Context ω} (unfinished : context.finalized = false) :
    Ensures (Asked world past contents) context.finalize fun _ =>
      Asked (context.finalizing world).2
        (past ++ context.releases contents.transport.isSome) contents := by
  rw [finalize_eq]
  unfold releases finalizing
  simp only [unfinished]
  cases context.finalizer? with
  | none => exact Ensures.pure fun _ asked => by rwa [List.append_nil]
  | some finalizer =>
    refine Ensures.bind Asked.get fun state => Ensures.given fun known => ?_
    rw [transport_of_slots known]
    refine Ensures.bind Asked.record fun _ => ?_
    refine Ensures.bind Asked.consult fun _ => Ensures.given fun _ => ?_
    exact Ensures.pure fun _ asked => asked

theorem Context.told_finalize {context : Context ω} (unfinished : context.finalized = false) :
    Ensures (Told past contents) context.finalize fun _ =>
      Told (past ++ context.releases contents.transport.isSome) contents :=
  Asked.forget fun _ => (asked_finalize unfinished).weaken fun _ _ asked => asked.2

theorem told_unload :
    Ensures (Told past contents) unload fun _ =>
      Told (past ++ if contents.transport.isSome then [.change (.transport none)] else [])
        { contents with transport := none } := by
  unfold unload
  refine Ensures.bind Told.get fun state => Ensures.given fun known => ?_
  rw [transport_of_slots known]
  cases empty : contents.transport with
  | some loaded => exact Told.setTransport
  | none =>
    rw [Slots.emptyTransport empty]
    exact Ensures.pure fun _ told => by simpa using told

theorem outside_unload (s : Platform ω) : (unload s).2.outside = s.outside := by
  unfold unload
  rw [bind_apply]
  change ((if s.transport.isSome = true then Platform.setTransport none else pure ()) s).2.outside =
    s.outside
  split <;> rfl

end Transport

namespace Command.Hardware

/-- How both contexts are let go, where the lookup of the nested transport answers with a status
and a pointer, and `loaded` says whether a transport is loaded. -/
def contextReleases (hardware : Hardware ω) (status : Nat) (nested : Option Nat) (loaded : Bool) :
    List Act :=
  match hardware.command, hardware.transport with
  | some command, some transport =>
    .call (.commandTransport command.number status nested) ::
      .call (.commandFinalize command.number) ::
      ((if status = 0 ∧ nested.isSome then transport.releases loaded else []) ++
        if loaded then [.change (.transport none)] else [])
  | _, _ => []

def releases (hardware : Hardware ω) (status : Nat) (nested : Option Nat) (loaded : Bool) :
    List Act :=
  hardware.contextReleases status nested loaded ++
    [.call (.moduleClosed hardware.library.opened.number hardware.library.opened.path)]

/-- What is asked outside as both contexts are let go, and what the lookup answers. -/
def farewell (library : Library ω) (command : CommandContext) (transport : Transport.Context ω) :
    StateM ω (Nat × Option Nat) := do
  let (status, nested) ← library.nestedTransport command
  library.finalize command
  if status = 0 ∧ nested.isSome then transport.finalizing
  return (status, nested)

theorem farewell_eq (library : Library ω) (command : CommandContext)
    (transport : Transport.Context ω) (world : ω) :
    farewell library command transport world =
      let answer := library.nestedTransport command world
      let after := (library.finalize command answer.2).2
      (answer.1,
        if answer.1.1 = 0 ∧ answer.1.2.isSome then (transport.finalizing after).2 else after) := by
  simp only [farewell, bind_apply]
  split <;> rfl

theorem asked_nestedTransport (library : Library ω) (command : CommandContext) :
    Ensures (Asked world past contents) (nestedTransport library command) fun answer s =>
      let looked := (library.nestedTransport command world).1
      answer = (if looked.1 = 0 then looked.2 else none) ∧
        Asked (library.nestedTransport command world).2
          (past ++ [.call (.commandTransport command.number looked.1 looked.2)]) contents s := by
  unfold nestedTransport
  refine Ensures.bind Asked.consult fun ⟨status, nested⟩ => Ensures.given fun answered => ?_
  rw [← answered]
  refine Ensures.bind Asked.record fun _ => ?_
  by_cases good : status = 0
  · simp only [good, ne_eq, not_true, if_false]
    exact Ensures.pure fun _ asked => ⟨rfl, asked⟩
  · simp only [good, ne_eq, not_false_iff, if_true]
    refine Ensures.bind Asked.note fun _ => ?_
    exact Ensures.pure fun _ asked => ⟨rfl, asked⟩

theorem asked_releaseTransport {transport : Transport.Context ω}
    (unfinished : transport.finalized = false) (nested : Option Nat) :
    Ensures (Asked world past contents) (releaseTransport transport nested) fun _ =>
      Asked (if nested.isSome then (transport.finalizing world).2 else world)
        (past ++ if nested.isSome then transport.releases contents.transport.isSome else [])
        contents := by
  unfold releaseTransport
  cases nested with
  | none => exact Asked.note.weaken fun _ _ asked => by simpa using asked
  | some number =>
    dsimp only
    split
    · refine Ensures.bind Asked.note fun _ => ?_
      refine Ensures.bind (Transport.Context.asked_finalize unfinished) fun _ => ?_
      exact Ensures.pure fun _ asked => asked
    · refine Ensures.bind (Transport.Context.asked_finalize unfinished) fun _ => ?_
      exact Ensures.pure fun _ asked => asked

/-- The first teardown: what it asks, in which order, and what is left of the hardware context. -/
theorem asked_teardown {hardware : Hardware ω} {command : CommandContext}
    {transport : Transport.Context ω} (hasCommand : hardware.command = some command)
    (hasTransport : hardware.transport = some transport)
    (unfinished : transport.finalized = false) :
    Ensures (Asked world past contents) hardware.teardown fun after s =>
      let looked := (hardware.library.nestedTransport command world).1
      after = ⟨hardware.library, none, none⟩ ∧
        Asked (farewell hardware.library command transport world).2
          (past ++ hardware.contextReleases looked.1 looked.2 contents.transport.isSome)
          { contents with transport := none } s := by
  unfold teardown contextReleases
  simp only [hasCommand, hasTransport, farewell_eq]
  refine Ensures.bind (asked_nestedTransport hardware.library command) fun answer => ?_
  generalize hardware.library.nestedTransport command world = answered
  obtain ⟨⟨status, nested⟩, asking⟩ := answered
  refine Ensures.given fun same => ?_
  subst same
  refine Ensures.bind Asked.record fun _ => ?_
  refine Ensures.bind Asked.consult fun _ => Ensures.given fun _ => ?_
  refine Ensures.bind (asked_releaseTransport unfinished _) fun _ => ?_
  refine Ensures.bind (Asked.of_told Transport.told_unload Transport.outside_unload) fun _ => ?_
  refine Ensures.pure fun s asked => ⟨rfl, ?_⟩
  have named : (if status = 0 then nested else none).isSome = true ↔
      status = 0 ∧ nested.isSome = true := by
    by_cases good : status = 0 <;> simp [good]
  simpa only [named, List.append_assoc, List.cons_append, List.nil_append] using asked

theorem told_teardown {hardware : Hardware ω} (whole : hardware.Whole) :
    Ensures (Told past contents) hardware.teardown fun after s =>
      after.library = hardware.library ∧ ∃ status nested,
        Told (past ++ hardware.contextReleases status nested contents.transport.isSome)
          { contents with transport := none } s := by
  obtain ⟨command, transport, hasCommand, hasTransport, unfinished⟩ := whole
  refine Asked.forget fun world => ?_
  refine (asked_teardown hasCommand hasTransport unfinished).weaken ?_
  rintro after s ⟨rfl, asked⟩
  exact ⟨rfl, _, _, asked.2⟩

theorem told_drop {hardware : Hardware ω} (whole : hardware.Whole) :
    Ensures (Told past contents) hardware.drop fun _ s => ∃ status nested,
      Told (past ++ hardware.releases status nested contents.transport.isSome)
        { contents with transport := none } s := by
  unfold drop releases
  refine Ensures.bind (told_teardown whole) fun after => Ensures.given fun same => ?_
  refine Ensures.exists_intro fun status => Ensures.exists_intro fun nested => ?_
  rw [same]
  refine Ensures.weaken Told.record fun _ s told => ⟨status, nested, ?_⟩
  rw [← List.append_assoc]
  exact told

end Command.Hardware

namespace Locking.Bridge

def releases (bridge : Bridge) (contents : Slots ω) : List Act :=
  (if bridge.ownsCallback contents then [.call (.callbackSet bridge.registry none)] else []) ++
    (if bridge.ownsSlot contents then [.change (.pool none)] else [])

theorem told_removeCallback (bridge : Bridge) (owns : Bool) :
    Ensures (Told past contents) (removeCallback bridge owns) fun _ =>
      if (contents.registry bridge.registry).callback = some .bridge ∧ owns then
        Told (past ++ [.call (.callbackSet bridge.registry none)])
          (contents.setCallback bridge.registry none)
      else Told past contents := by
  unfold removeCallback
  refine Ensures.bind Told.get fun state => Ensures.given fun known => ?_
  rw [registry_of_slots known]
  dsimp only
  split
  · exact Ensures.bind Told.record fun _ => Told.writeCallback
  · exact Told.note

theorem told_teardown (bridge : Bridge) :
    Ensures (Told past contents) bridge.teardown fun _ =>
      Told (past ++ bridge.releases contents) (bridge.dismantle contents) := by
  unfold teardown
  refine Ensures.bind Told.get fun state => Ensures.given fun known => ?_
  rw [ownsPool_of_slots known]
  dsimp only
  -- The pool goes last and whatever happened to the callback, so this step is judged once.
  have withdrawn : ∀ (calls : List Act) (calm : Slots ω) (answer : Bridge),
      Ensures (Told (past ++ calls) calm)
        (if bridge.ownsSlot contents then do
          Platform.setPool none
          return answer
        else return answer)
        fun _ => Told
          (past ++ (calls ++ if bridge.ownsSlot contents then [.change (.pool none)] else []))
          (if bridge.ownsSlot contents then { calm with pool := none } else calm) := by
    intro calls calm answer
    rw [← List.append_assoc]
    split
    · exact Ensures.bind Told.setPool fun _ => Ensures.pure fun _ told => told
    · exact Ensures.pure fun _ told => by simpa using told
  unfold releases dismantle withdrawCallback
  by_cases ours : bridge.state = .installedByUs
  · simp only [ours, if_true]
    refine Ensures.bind (told_removeCallback bridge (bridge.ownsSlot contents)) fun _ => ?_
    simp only [ownsCallback, ours, true_and]
    split
    · exact withdrawn _ _ _
    · simpa using withdrawn [] contents _
  · simp only [ours, if_false, ownsCallback, false_and]
    simpa using withdrawn [] contents _

end Locking.Bridge

end CryptoProvider
