import CryptoProvider.Proofs.Transport.Slot

/-!
Which transport came first. Numbers only go up, so a transport that is put into the slot has a
number that nothing had before, and the one whose number it was never comes back.
-/

set_option autoImplicit false

namespace CryptoProvider

variable {ω : Type}

/-- Numbers only went up, and what was put into the transport slot meanwhile was numbered meanwhile.
-/
structure Onward (s t : Platform ω) : Prop where
  next : s.next ≤ t.next
  slot : ∀ loaded, t.transport = some loaded →
    s.transport = some loaded ∨ (s.next ≤ loaded.module ∧ loaded.module < t.next)

namespace Onward

variable {s t u : Platform ω}

theorem of_same (next : s.next ≤ t.next) (transport : t.transport = s.transport) : Onward s t := by
  constructor
  · exact next
  · intro loaded held
    rw [transport] at held
    exact .inl held

theorem refl (s : Platform ω) : Onward s s :=
  of_same (Nat.le_refl _) rfl

theorem trans (first : Onward s t) (second : Onward t u) : Onward s u := by
  constructor
  · exact Nat.le_trans first.next second.next
  · intro loaded held
    have later := second.next
    rcases second.slot loaded held with kept | ⟨new, issued⟩
    · rcases first.slot loaded kept with older | ⟨new, issued⟩
      · exact .inl older
      · exact .inr ⟨new, by omega⟩
    · have earlier := first.next
      exact .inr ⟨by omega, issued⟩

-- A number that was given out and is not in the slot does not come back.
theorem lost (onward : Onward s t) {number : Nat} (issued : number < s.next)
    (lost : s.transport.map Transport.Loaded.module ≠ some number) :
    t.transport.map Transport.Loaded.module ≠ some number := by
  intro found
  obtain ⟨loaded, held, same⟩ := Option.map_eq_some_iff.mp found
  rcases onward.slot loaded held with kept | ⟨new, -⟩
  · exact lost (by rw [kept, Option.map_some, same])
  · omega

end Onward

def Advances {α : Type} (program : StateM (Platform ω) α) : Prop :=
  ∀ s, Onward s (program s).2

namespace Advances

variable {α β : Type}

theorem pure (value : α) : Advances (Pure.pure value : StateM (Platform ω) α) :=
  fun s => .refl s

theorem bind {program : StateM (Platform ω) α} {rest : α → StateM (Platform ω) β}
    (first : Advances program) (next : ∀ value, Advances (rest value)) :
    Advances (program >>= rest) := by
  intro s
  rw [bind_apply]
  exact (first s).trans (next _ _)

theorem get : Advances (MonadState.get : StateM (Platform ω) (Platform ω)) :=
  fun s => .refl s

theorem consult (answer : StateM ω α) : Advances (Platform.consult answer) :=
  fun _ => .of_same (Nat.le_refl _) rfl

theorem record (reported : Bool) (call : Call) :
    Advances (Platform.record (ω := ω) reported call) :=
  fun _ => .of_same (Nat.le_refl _) rfl

theorem note (notice : Notice) : Advances (Platform.note (ω := ω) notice) :=
  fun _ => .of_same (Nat.le_refl _) rfl

theorem fresh : Advances (Platform.fresh (ω := ω)) :=
  fun _ => .of_same (Nat.le_succ _) rfl

theorem ite {condition : Prop} [Decidable condition] {first second : StateM (Platform ω) α}
    (yes : Advances first) (no : Advances second) :
    Advances (if condition then first else second) := by
  split
  · exact yes
  · exact no

theorem ensures {s : Platform ω} {program : StateM (Platform ω) α} (advances : Advances program) :
    Ensures (Onward s) program fun _ => Onward s :=
  fun t onward => onward.trans (advances t)

end Advances

/-- A number was given out meanwhile. -/
structure Since (s t : Platform ω) (number : Nat) : Prop where
  onward : Onward s t
  new : s.next ≤ number
  issued : number < t.next

theorem Since.ensures {α : Type} {s : Platform ω} {number : Nat}
    {program : StateM (Platform ω) α} (advances : Advances program) :
    Ensures (Since s · number) program fun _ t => Since s t number := by
  intro t since
  have step := advances t
  exact ⟨since.onward.trans step, since.new, Nat.lt_of_lt_of_le since.issued step.next⟩

namespace OpenModule

theorem since_open? (loader : ModuleLoader ω) (path : String) (s : Platform ω) :
    Ensures (Onward s) (open? loader path) fun opened? t =>
      Onward s t ∧ ∀ opened ∈ opened?, Since s t opened.number := by
  unfold open?
  refine Ensures.bind (Advances.consult _).ensures fun found => ?_
  cases found with
  | none =>
    refine Ensures.bind (Advances.record _ _).ensures fun _ => ?_
    exact Ensures.pure fun _ onward => ⟨onward, nofun⟩
  | some found =>
    intro t onward
    have issued : Onward s (Platform.fresh t).2 := onward.trans (Advances.fresh t)
    have recorded := issued.trans (Advances.record loader.reported (.moduleOpened t.next path) _)
    refine ⟨recorded, ?_⟩
    rintro _ ⟨⟩
    exact ⟨recorded, onward.next, Nat.lt_succ_self _⟩

theorem advances_open? (loader : ModuleLoader ω) (path : String) :
    Advances (open? loader path) :=
  fun s => (since_open? loader path s s (.refl s)).1

theorem advances_close (opened : OpenModule ω) : Advances opened.close :=
  .record _ _

end OpenModule

theorem Buffer.advances_allocate [Memory ω] (size : Nat) : Advances (allocate (ω := ω) size) :=
  .bind (.consult _) fun _ => .pure _

namespace Transport

variable (loader : ModuleLoader ω) (name : String) (config : Option String)

theorem advances_unload : Advances (unload (ω := ω)) := by
  intro s
  constructor
  · unfold unload
    rw [bind_apply]
    split <;> exact Nat.le_refl _
  · intro loaded held
    rw [unload_transport] at held
    cases held

theorem Context.advances_finalize (context : Context ω) : Advances context.finalize := by
  rw [finalize_eq]
  refine Advances.ite (.pure _) ?_
  cases context.finalizer? with
  | none => exact .pure _
  | some finalizer =>
    exact .bind .get fun _ => .bind (.record _ _) fun _ => .bind (.consult _) fun _ => .pure _

theorem since_openConventional (s : Platform ω) :
    Ensures (Onward s) (openConventional loader name) fun opened? t =>
      Onward s t ∧ ∀ opened ∈ opened?, Since s t opened.number := by
  unfold openConventional
  cases libraryName? name with
  | none =>
    refine Ensures.bind (Advances.note _).ensures fun _ => ?_
    exact Ensures.pure fun _ onward => ⟨onward, nofun⟩
  | some path => exact OpenModule.since_open? loader path s

theorem since_locate (s : Platform ω) :
    Ensures (Onward s) (locate loader name) fun opened? t =>
      Onward s t ∧ ∀ opened ∈ opened?, Since s t opened.number := by
  unfold locate
  refine Ensures.bind (OpenModule.since_open? loader name s) fun opened? => ?_
  cases opened? with
  | some opened => exact Ensures.pure fun _ found => found
  | none => exact Ensures.strengthen (since_openConventional loader name s) fun _ missed => missed.1

theorem advances_isPresent : Advances (isPresent loader name) := by
  refine Advances.bind (fun s => (since_openConventional loader name s s (.refl s)).1) fun found => ?_
  cases found with
  | none => exact .pure _
  | some opened => exact .bind opened.advances_close fun _ => .pure _

theorem Context.advances_querySize (opened : OpenModule ω) (plugin : TransportPlugin ω)
    (routine : StartRoutine ω) : Advances (querySize opened plugin routine name config) :=
  .bind (.consult _) fun _ => .bind (.record _ _) fun _ =>
    .ite (.bind (.note _) fun _ => .pure _) (.pure _)

theorem Context.advances_fill [Memory ω] (opened : OpenModule ω) (plugin : TransportPlugin ω)
    (routine : StartRoutine ω) (size : Nat) :
    Advances (fill opened plugin routine name config size) := by
  refine Advances.bind (Buffer.advances_allocate size) fun allocated => ?_
  cases allocated with
  | error cause => exact .pure _
  | ok buffer =>
    exact .bind .fresh fun _ => .bind (.consult _) fun _ => .bind (.record _ _) fun _ =>
      .ite (.bind (.note _) fun _ => .pure _) (.pure _)

theorem advances_start [Memory ω] (opened : OpenModule ω) :
    Advances (start opened name config) := by
  unfold start
  cases opened.exports.transport with
  | none => exact .bind (.note _) fun _ => .pure _
  | some plugin =>
    refine Advances.bind (.consult _) fun info? => .bind (.record _ _) fun _ => ?_
    cases info? with
    | none => exact .pure _
    | some info =>
      simp only [Platform.peek_eq, pure_bind]
      cases info.value.start with
      | none => exact .pure _
      | some routine =>
        refine Advances.bind (Context.advances_querySize name config opened plugin routine)
          fun size => ?_
        cases size with
        | error cause => exact .pure _
        | ok size =>
          refine Advances.bind (Context.advances_fill name config opened plugin routine size)
            fun filled => ?_
          cases filled with
          | error cause => exact .pure _
          | ok context => exact .pure _

-- A load puts its own module into the slot, which it has just opened.
theorem advances_load [Memory ω] : Advances (load loader name config) := by
  intro s
  suffices spec : Ensures (Onward s) (load loader name config) fun _ => Onward s from
    spec s (.refl s)
  unfold load
  refine Ensures.bind Advances.get.ensures fun state => ?_
  split
  · exact Ensures.bind (Advances.note _).ensures fun _ => Ensures.pure fun _ onward => onward
  · refine Ensures.bind (since_locate loader name s) fun opened? => ?_
    cases opened? with
    | none =>
      refine Ensures.strengthen ?_ fun _ missed => missed.1
      exact Ensures.bind (Advances.note _).ensures fun _ => Ensures.pure fun _ onward => onward
    | some opened =>
      refine Ensures.strengthen ?_ fun t found => found.2 opened rfl
      refine Ensures.bind (Since.ensures (advances_start name config opened)) fun started => ?_
      cases started with
      | error cause =>
        refine Ensures.bind (Since.ensures opened.advances_close) fun _ => ?_
        exact Ensures.pure fun _ since => since.onward
      | ok made =>
        intro t since
        constructor
        · exact since.onward.next
        · rintro _ ⟨⟩
          exact .inr ⟨since.new, since.issued⟩

theorem onward_release (place : Nat) (rest : Context ω → Option (Context ω)) (s : Client ω) :
    Onward s.toPlatform (Client.release place rest s).2.toPlatform := by
  rw [release_eq]
  cases s.contexts[place]?.join with
  | none => exact .refl _
  | some context => exact context.advances_finalize s.toPlatform

theorem onward_perform [Memory ω] (operation : Operation ω) (s : Client ω) :
    Onward s.toPlatform (operation.perform s).2.toPlatform := by
  cases operation with
  | load loader name config =>
    have loaded := advances_load loader name config s.toPlatform
    let request : Request ω := ⟨loader, name, config⟩
    cases answered : (request.run s.toPlatform).1 with
    | error cause =>
      change Onward s.toPlatform (request.operation.perform s).2.toPlatform
      rw [request.perform_of_refused answered]
      exact loaded
    | ok context =>
      change Onward s.toPlatform (request.operation.perform s).2.toPlatform
      rw [request.perform_of_made answered]
      exact loaded
  | unload => exact advances_unload s.toPlatform
  | describe => exact .refl _
  | isLoaded => exact .refl _
  | isPresent loader name => exact advances_isPresent loader name s.toPlatform
  | finalize place => exact onward_release place _ s
  | drop place => exact onward_release place _ s
  | outside act => exact Advances.consult act s.toPlatform

end Transport

namespace Command

theorem Library.advances_openAt (loader : ModuleLoader ω) (path : String) :
    Advances (openAt loader path) := by
  refine Advances.bind (OpenModule.advances_open? loader path) fun opened? => ?_
  cases opened? with
  | none => exact .pure _
  | some opened =>
    dsimp only
    cases resolve? opened with
    | some library => exact .pure _
    | none => exact .bind (.note _) fun _ => .bind opened.advances_close fun _ => .pure _

namespace Hardware

theorem advances_bind [Memory ω] (library : Library ω) (transport : Transport.Context ω) :
    Advances (bind library transport) := by
  refine Advances.bind (.consult _) fun size => .bind (.record _ _) fun _ => ?_
  refine Advances.bind (Buffer.advances_allocate size) fun allocated => ?_
  cases allocated with
  | error cause => exact .bind (.note _) fun _ => .pure _
  | ok buffer =>
    exact .bind .fresh fun _ => .bind (.consult _) fun _ => .bind (.record _ _) fun _ =>
      .ite (.bind (.note _) fun _ => .pure _) (.pure _)

theorem advances_bringUp [Memory ω] (loader : ModuleLoader ω) (path : String)
    (spec : Transport.Spec) :
    Advances (bringUp loader path spec) := by
  refine Advances.bind (Library.advances_openAt loader path) fun library => ?_
  cases library with
  | error cause => exact .pure _
  | ok library =>
    refine Advances.bind (Transport.advances_load loader spec.name spec.config) fun loaded => ?_
    cases loaded with
    | error cause => exact .bind library.opened.advances_close fun _ => .pure _
    | ok transport =>
      refine Advances.bind (advances_bind library transport) fun bound => ?_
      cases bound with
      | error cause =>
        exact .bind transport.advances_finalize fun _ => .bind Transport.advances_unload fun _ =>
          .bind library.opened.advances_close fun _ => .pure _
      | ok command => exact .bind (.note _) fun _ => .pure _

theorem advances_nestedTransport (library : Library ω) (command : CommandContext) :
    Advances (nestedTransport library command) :=
  .bind (.consult _) fun _ => .bind (.record _ _) fun _ =>
    .ite (.bind (.note _) fun _ => .pure _) (.pure _)

theorem advances_releaseTransport (transport : Transport.Context ω) (nested : Option Nat) :
    Advances (releaseTransport transport nested) := by
  cases nested with
  | none => exact .note _
  | some number =>
    exact .ite (.bind (.note _) fun _ => .bind transport.advances_finalize fun _ => .pure _)
      (.bind transport.advances_finalize fun _ => .pure _)

theorem advances_teardown (hardware : Hardware ω) : Advances hardware.teardown := by
  unfold teardown
  cases hardware.command with
  | none => exact .pure _
  | some command =>
    refine Advances.bind (advances_nestedTransport _ command) fun nested => ?_
    refine Advances.bind (.record _ _) fun _ => .bind (.consult _) fun _ => ?_
    cases hardware.transport with
    | none => exact .bind Transport.advances_unload fun _ => .pure _
    | some transport =>
      exact .bind (advances_releaseTransport transport nested) fun _ =>
        .bind Transport.advances_unload fun _ => .pure _

theorem advances_drop (hardware : Hardware ω) : Advances hardware.drop :=
  .bind hardware.advances_teardown fun after => after.library.opened.advances_close

end Hardware

end Command

end CryptoProvider
