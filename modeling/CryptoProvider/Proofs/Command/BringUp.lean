import CryptoProvider.Proofs.Transport.Loading

/-!
Bringing the hardware up, when it fails. The shared slots are as before, the command library is
closed, and nothing is left of the contexts: a command context never started, and a transport
context that did was finalized before the slot was emptied again.
-/

set_option autoImplicit false

namespace CryptoProvider.Command.Hardware

open Ledger Transport

variable {ω : Type} {world : ω} {past : List Act} {contents : Slots ω}

/-- An attempt to bind a command context: it cannot be allocated, or it is refused. -/
inductive Unbound (transport : Nat) : List Act → Prop where
  | unallocated (size : Nat) : Unbound transport [.call (.commandSize 0 size)]
  | refused (number size status : Nat) (zeroed : Bool) (nonzero : status ≠ 0) :
      Unbound transport [.call (.commandSize 0 size),
        .call (.commandStart number size zeroed transport AbiVersion.current status)]

/-- How a bring-up that fails unwinds, by how far it came. Only a bring-up that found the slot empty
calls a plugin; only one that filled the slot empties it. -/
inductive Unwound (path : String) : (occupied : Bool) → List Act → Prop where
  | libraryMissing (occupied : Bool) : Unwound path occupied [.call (.moduleMissed path)]
  | libraryUnfit (occupied : Bool) (library : Nat) :
      Unwound path occupied
        [.call (.moduleOpened library path), .call (.moduleClosed library path)]
  | transportRefused (library : Nat) :
      Unwound path true [.call (.moduleOpened library path), .call (.moduleClosed library path)]
  | transportFailed (library : Nat) (acts : List Act) (undone : Undone acts) :
      Unwound path false
        (.call (.moduleOpened library path) :: (acts ++ [.call (.moduleClosed library path)]))
  | commandFailed (library module : Nat) (context : Context ω) (acts attempt : List Act)
      (begun : Begun module context acts) (unbound : Unbound context.number attempt) :
      Unwound path false
        (.call (.moduleOpened library path) ::
          (acts ++ .change (.transport (some module)) ::
            (attempt ++ (context.releases true ++
              [.change (.transport none), .call (.moduleClosed library path)]))))

theorem told_openAt (loader : ModuleLoader ω) (path : String) :
    Ensures (Told past contents) (Library.openAt loader path) fun opened s =>
      match opened with
      | .error _ => ∃ acts, (∀ occupied, Unwound (ω := ω) path occupied acts) ∧
          Told (past ++ acts) contents s
      | .ok library => library.opened.path = path ∧
          Told (past ++ [.call (.moduleOpened library.opened.number path)]) contents s := by
  refine Asked.forget fun world => ?_
  unfold Library.openAt
  refine Ensures.bind (asked_open? loader path) fun opened? => Ensures.given fun _ => ?_
  refine Ensures.given fun named => ?_
  cases opened? with
  | none => exact Ensures.pure fun _ asked => ⟨_, .libraryMissing, asked.2⟩
  | some opened =>
    obtain rfl := named opened rfl
    dsimp only
    cases fit : Library.resolve? opened with
    | some library =>
      refine Ensures.pure fun _ asked => ?_
      obtain rfl := Library.opened_of_resolve? fit
      exact ⟨rfl, asked.2⟩
    | none =>
      refine Ensures.bind Asked.note fun _ => ?_
      refine Ensures.bind Asked.record fun _ => Ensures.pure fun _ asked => ?_
      rw [List.append_assoc] at asked
      exact ⟨_, fun occupied => .libraryUnfit occupied opened.number, asked.2⟩

/-- A command context bound to a transport context that can still be finalized. -/
structure Bound (hardware : Hardware ω) (command : CommandContext) (transport : Context ω) :
    Prop where
  hasCommand : hardware.command = some command
  hasTransport : hardware.transport = some transport
  unfinished : transport.finalized = false
  sameTransport : command.transport = transport.number

theorem Bound.whole {hardware : Hardware ω} {command : CommandContext} {transport : Context ω}
    (bound : hardware.Bound command transport) : hardware.Whole :=
  ⟨command, transport, bound.hasCommand, bound.hasTransport, bound.unfinished⟩

/-- What it takes to bind a command context: a size that the library reports first, a zeroed buffer
of that size, and the library's word that it started over the transport context. -/
theorem asked_bind [Memory ω] (library : Library ω) (transport : Context ω) :
    Ensures (Asked world past contents) (bind library transport) fun bound s =>
      let size := (library.contextSize 0 world).1
      let memory := Buffer.available size (library.contextSize 0 world).2
      if memory.1 = true then
        ∃ number,
          let context : CommandContext := ⟨number, size, transport.number⟩
          let started := library.start context AbiVersion.current memory.2
          bound = (if started.1 = 0 then .ok context else .error (.commandContextStart started.1)) ∧
            Asked started.2
              (past ++ [.call (.commandSize 0 size),
                .call (.commandStart number size true transport.number AbiVersion.current started.1)])
              contents s
      else
        bound = .error (.contextAllocation size) ∧
          Asked memory.2 (past ++ [.call (.commandSize 0 size)]) contents s := by
  unfold bind
  refine Ensures.bind Asked.consult fun size => Ensures.given fun answered => ?_
  subst answered
  refine Ensures.bind Asked.record fun _ => ?_
  refine Ensures.bind (Buffer.asked_allocate _) fun made => Ensures.given fun allocated => ?_
  dsimp only
  split at allocated
  case isFalse short =>
    subst allocated
    simp only [if_neg short]
    exact Ensures.bind Asked.note fun _ => Ensures.pure fun _ asked => ⟨rfl, asked⟩
  case isTrue room =>
    subst allocated
    simp only [if_pos room]
    refine Ensures.bind Asked.fresh fun number => ?_
    refine Ensures.bind Asked.consult fun status => Ensures.given fun started => ?_
    subst started
    refine Ensures.bind Asked.record fun _ => ?_
    rw [List.append_assoc]
    split
    case isTrue refused =>
      refine Ensures.bind Asked.note fun _ => Ensures.pure fun _ asked => ⟨number, ?_, asked⟩
      rw [if_neg refused]
    case isFalse granted =>
      refine Ensures.pure fun _ asked => ⟨number, ?_, asked⟩
      rw [if_pos (Decidable.not_not.mp granted)]

theorem told_bind [Memory ω] (library : Library ω) (transport : Context ω) :
    Ensures (Told past contents) (bind library transport) fun bound s =>
      match bound with
      | .error _ => ∃ attempt, Unbound transport.number attempt ∧ Told (past ++ attempt) contents s
      | .ok command => command.transport = transport.number ∧ slots s = contents := by
  refine Asked.forget fun world => (asked_bind library transport).weaken fun bound s bind => ?_
  dsimp only at bind
  split at bind
  case isFalse unallocated =>
    obtain ⟨rfl, asked⟩ := bind
    exact ⟨_, .unallocated _, asked.2⟩
  case isTrue allocated =>
    obtain ⟨number, rfl, asked⟩ := bind
    split
    case h_1 cause failed =>
      split at failed
      · cases failed
      case isFalse refused => exact ⟨_, .refused number _ _ _ refused, asked.2⟩
    case h_2 command made =>
      split at made
      · cases made
        exact ⟨rfl, asked.2.2⟩
      · cases made

theorem asked_close (library : Library ω) :
    Ensures (Asked world past contents) library.close fun _ =>
      Asked world
        (past ++ [.call (.moduleClosed library.opened.number library.opened.path)]) contents :=
  Asked.record

/-- What bringing the hardware up does: it fails and unwinds, or it fills the empty slot. -/
theorem told_bringUp [Memory ω] (loader : ModuleLoader ω) (path : String) (spec : Spec) :
    Ensures (Told past contents) (bringUp loader path spec) fun built s =>
      match built with
      | .error _ => ∃ acts, Unwound (ω := ω) path contents.transport.isSome acts ∧
          Told (past ++ acts) contents s
      | .ok hardware => contents.transport = none ∧
          (∃ command transport, hardware.Bound command transport) ∧
          ∃ loaded, slots s = { contents with transport := some loaded } := by
  unfold bringUp
  refine Ensures.bind (told_openAt loader path) fun opened => ?_
  cases opened with
  | error cause =>
    exact Ensures.pure fun _ ⟨acts, unwound, told⟩ => ⟨acts, unwound _, told⟩
  | ok library =>
    refine Ensures.given fun named => ?_
    refine Ensures.bind (told_load loader spec.name spec.config) fun loaded => ?_
    cases loaded with
    | error cause =>
      refine Ensures.exists_intro fun acts => Ensures.given fun undone => ?_
      refine Ensures.given fun quiet => ?_
      refine Ensures.bind Told.record fun _ => Ensures.pure fun _ told => ?_
      rw [named, List.append_assoc, List.append_assoc] at told
      refine ⟨_, ?_, told⟩
      cases occupied : contents.transport.isSome with
      | true =>
        rw [quiet occupied]
        exact .transportRefused library.opened.number
      | false => exact .transportFailed library.opened.number acts undone
    | ok context =>
      refine Ensures.given fun empty => Ensures.given fun unfinished => ?_
      refine Ensures.exists_intro fun module => Ensures.exists_intro fun info => ?_
      refine Ensures.exists_intro fun acts => Ensures.given fun begun => ?_
      refine Ensures.bind (told_bind library context) fun bound => ?_
      cases bound with
      | ok command =>
        refine Ensures.given fun same => ?_
        intro s kept
        exact ⟨empty, ⟨command, context, rfl, rfl, unfinished, same⟩, _, kept⟩
      | error cause =>
        -- The context goes while the slot still holds its transport, then the slot is emptied.
        refine Ensures.exists_intro fun attempt => Ensures.given fun unbound => ?_
        refine Ensures.bind (Context.told_finalize unfinished) fun _ => ?_
        refine Ensures.bind told_unload fun _ => ?_
        refine Ensures.bind Told.record fun _ => Ensures.pure fun _ told => ?_
        rw [empty]
        refine ⟨_, .commandFailed library.opened.number module context acts attempt begun unbound,
          ?_, told.2.trans (Slots.emptyTransport empty)⟩
        rw [told.1, named]
        simp

/-- A bring-up that fails leaves the shared slots as it found them, and holds on to nothing. -/
theorem bringUp_failed_unwinds [Memory ω] (loader : ModuleLoader ω) (path : String) (spec : Spec)
    (s : Platform ω) (cause : Error) (failed : (bringUp loader path spec s).1 = .error cause) :
    slots (bringUp loader path spec s).2 = slots s ∧
      ∃ acts, (bringUp loader path spec s).2.acts = s.acts ++ acts ∧
        Unwound (ω := ω) path s.transport.isSome acts := by
  have built := told_bringUp loader path spec s ⟨rfl, rfl⟩
  rw [failed] at built
  obtain ⟨acts, unwound, told, kept⟩ := built
  exact ⟨kept, acts, told, unwound⟩

theorem bringUp_failed_unwinds_refused :
    (bringUp (Answering.loader 0 1) "commands" ⟨"plain", none⟩ (Platform.clean ())).1 =
        .error (.commandContextStart 1) ∧
      slots (bringUp (Answering.loader 0 1) "commands" ⟨"plain", none⟩ (Platform.clean ())).2 =
        slots (Platform.clean ()) ∧
      ∃ acts,
        (bringUp (Answering.loader 0 1) "commands" ⟨"plain", none⟩ (Platform.clean ())).2.acts =
          (Platform.clean ()).acts ++ acts ∧
        Unwound (ω := Unit) "commands" false acts :=
  ⟨rfl, bringUp_failed_unwinds (Answering.loader 0 1) "commands" ⟨"plain", none⟩ (Platform.clean ())
    (.commandContextStart 1) rfl⟩

end CryptoProvider.Command.Hardware
