import CryptoProvider.Proofs.Command.History

/-!
How a hardware context is taken down. The nested transport is looked up once and decides whether
the transport context is finalized; whatever pointer comes back, it is the context's own transport
that is. The command library stays open until the drop, and a teardown repeated does nothing.
-/

set_option autoImplicit false

namespace CryptoProvider

open Ledger

variable {ω : Type}

namespace Transport.Context

/-- A finalizer that can be run: the buffer holds a whole header of a known version, and the header
has one. -/
def Finalizable (context : Context ω) : Prop :=
  headerSize ≤ context.size ∧ ∃ header, context.buffer.header = some header ∧
    1 ≤ header.value.version ∧ header.value.finalizer.isSome

theorem finalizer?_isSome_iff (context : Context ω) :
    context.finalizer?.isSome ↔ context.Finalizable := by
  unfold finalizer? header? Finalizable Header.finalizer?
  by_cases small : context.size < headerSize
  · simp [small, Nat.not_le.mpr small]
  · have whole : headerSize ≤ context.size := Nat.not_lt.mp small
    cases context.buffer.header with
    | none => simp [small]
    | some header =>
      cases held : header.value.finalizer with
      | none => simp [small, held]
      | some finalizer => simp [small, whole, held]

instance (context : Context ω) : Decidable context.Finalizable :=
  decidable_of_iff _ context.finalizer?_isSome_iff

/-- A finalizer runs if it can, on the context that it stands in. -/
theorem releases_eq (context : Context ω) : ∃ magic, ∀ loaded,
    context.releases loaded =
      if context.Finalizable then
        [.call (.transportFinalize context.plugin context.number magic loaded)]
      else [] := by
  cases found : context.finalizer? with
  | none =>
    have unusable : ¬ context.Finalizable := by
      rw [← finalizer?_isSome_iff, found]
      exact Bool.false_ne_true
    exact ⟨0, fun loaded => by simp only [releases, found, if_neg unusable]⟩
  | some finalizer =>
    have usable : context.Finalizable := by
      rw [← finalizer?_isSome_iff, found]
      rfl
    exact ⟨finalizer.1, fun loaded => by simp only [releases, found, if_pos usable]⟩

end Transport.Context

namespace Command.Hardware

/-- Teardown called a number of times. -/
def teardowns : (calls : Nat) → Hardware ω → StateM (Platform ω) (Hardware ω)
  | 0, hardware => return hardware
  | calls + 1, hardware => do
    let hardware ← hardware.teardown
    hardware.teardowns calls

/-- What is left of a hardware context that was torn down. -/
def spent (hardware : Hardware ω) : Hardware ω :=
  ⟨hardware.library, none, none⟩

variable {hardware : Hardware ω} {command : CommandContext} {transport : Transport.Context ω}

theorem teardowns_spent (calls : Nat) (s : Platform ω) :
    teardowns calls hardware.spent s = (hardware.spent, s) := by
  induction calls with
  | zero => rfl
  | succ calls ih =>
    rw [teardowns, bind_apply, teardown_again rfl]
    exact ih

theorem drop_spent (s : Platform ω) : hardware.spent.drop s = hardware.library.close s := by
  rw [drop, bind_apply, teardown_again rfl]
  rfl

theorem bound_of_bringUp [Memory ω] {loader : ModuleLoader ω} {path : String}
    {spec : Transport.Spec}
    {s : Platform ω} (granted : (bringUp loader path spec s).1 = .ok hardware) :
    ∃ command transport, hardware.Bound command transport := by
  have built := told_bringUp loader path spec s ⟨rfl, rfl⟩
  rw [granted] at built
  exact built.2.1

namespace Bound

variable (bound : hardware.Bound command transport)

include bound

theorem contextReleases_eq : ∃ magic, ∀ status nested loaded,
    hardware.contextReleases status nested loaded =
      [.call (.commandTransport command.number status nested),
        .call (.commandFinalize command.number)] ++
      ((if status = 0 ∧ nested.isSome ∧ transport.Finalizable then
          [.call (.transportFinalize transport.plugin transport.number magic loaded)]
        else []) ++
        if loaded then [.change (.transport none)] else []) := by
  obtain ⟨magic, releases⟩ := transport.releases_eq
  refine ⟨magic, fun status nested loaded => ?_⟩
  simp only [contextReleases, bound.hasCommand, bound.hasTransport, releases, ite_and]
  rfl

theorem teardown_eq (s : Platform ω) :
    hardware.teardown s = (hardware.spent, (hardware.teardown s).2) := by
  have torn := asked_teardown bound.hasCommand bound.hasTransport bound.unfinished s ⟨rfl, rfl, rfl⟩
  exact Prod.ext torn.1 rfl

theorem asked (s : Platform ω) :
    let looked := (hardware.library.nestedTransport command s.outside).1
    Asked (farewell hardware.library command transport s.outside).2
      (s.acts ++ hardware.contextReleases looked.1 looked.2 s.transport.isSome)
      { slots s with transport := none } (hardware.teardown s).2 :=
  (asked_teardown bound.hasCommand bound.hasTransport bound.unfinished s ⟨rfl, rfl, rfl⟩).2

theorem drop_eq (s : Platform ω) :
    hardware.drop s = hardware.library.close (hardware.teardown s).2 := by
  rw [drop, bind_apply, bound.teardown_eq]
  rfl

theorem teardowns_succ (calls : Nat) (s : Platform ω) :
    teardowns (calls + 1) hardware s = (hardware.spent, (hardware.teardown s).2) := by
  rw [teardowns, bind_apply, bound.teardown_eq]
  exact teardowns_spent calls _

/-- However often teardown was called, the drop leaves the same. -/
theorem drop_teardowns (calls : Nat) (s : Platform ω) :
    (teardowns calls hardware s).1.drop (teardowns calls hardware s).2 =
      hardware.library.close (hardware.teardown s).2 := by
  cases calls with
  | zero => exact bound.drop_eq s
  | succ calls => rw [bound.teardowns_succ, drop_spent]

end Bound

/-- The protocol of a teardown, in whatever state the process is by then. The first teardown looks
the nested transport up, finalizes the command context, finalizes the transport context if the
lookup gave a pointer, and empties the transport slot; any further one does nothing. The drop closes
the command library, after a teardown of its own if there was none. -/
theorem teardown_protocol [Memory ω] {loader : ModuleLoader ω} {path : String}
    {spec : Transport.Spec} {before : Platform ω} {hardware : Hardware ω}
    (granted : (bringUp loader path spec before).1 = .ok hardware) (s : Platform ω) :
    ∃ command transport status nested magic, hardware.Bound command transport ∧
      (hardware.library.nestedTransport command s.outside).1 = (status, nested) ∧
      let world := (farewell hardware.library command transport s.outside).2
      let finalized :=
        if status = 0 ∧ nested.isSome ∧ transport.Finalizable then
          [.call (.transportFinalize transport.plugin transport.number magic s.transport.isSome)]
        else []
      let emptied := if s.transport.isSome then [.change (.transport none)] else []
      let released :=
        [.call (.commandTransport command.number status nested),
          .call (.commandFinalize command.number)] ++ (finalized ++ emptied)
      let closed :=
        .call (.moduleClosed hardware.library.opened.number hardware.library.opened.path)
      let torn := hardware.teardown s
      Asked world (s.acts ++ released) { slots s with transport := none } torn.2 ∧
      (∀ calls, teardowns (calls + 1) hardware s = torn) ∧
      (∀ calls, Asked world (s.acts ++ released ++ [closed]) { slots s with transport := none }
        ((teardowns calls hardware s).1.drop (teardowns calls hardware s).2).2) ∧
      ∀ later : Platform ω, torn.1.teardown later = (torn.1, later) ∧
        Asked later.outside (later.acts ++ [closed]) (slots later) (torn.1.drop later).2 := by
  obtain ⟨command, transport, bound⟩ := bound_of_bringUp granted
  obtain ⟨magic, releases⟩ := bound.contextReleases_eq
  have torn := bound.asked s
  have left := bound.teardown_eq s
  simp only [releases] at torn
  refine ⟨command, transport, _, _, magic, bound, rfl, torn, fun calls => ?_, fun calls => ?_,
    fun later => ?_⟩
  · rw [bound.teardowns_succ, ← left]
  · rw [bound.drop_teardowns]
    exact asked_close hardware.library _ torn
  · rw [left]
    refine ⟨teardown_again rfl later, ?_⟩
    rw [drop_spent]
    exact asked_close hardware.library later ⟨rfl, rfl, rfl⟩

/-- Hardware that comes up, with a command library that then reports a transport of somebody else. -/
def straying : ModuleLoader Unit :=
  let exports := Transport.Answering.exports 0 0
  ⟨true, fun _ => pure (some
    { exports with command :=
        { exports.command with nestedTransport := some fun _ => pure (0, some 7) } })⟩

theorem teardown_protocol_straying :
    let built := bringUp straying "commands" ⟨"plain", none⟩ (Platform.clean ())
    ∃ hardware magic, built.1 = .ok hardware ∧
      ((teardowns 2 hardware built.2).1.drop (teardowns 2 hardware built.2).2).2.acts =
        built.2.acts ++
          [.call (.commandTransport 3 0 (some 7)), .call (.commandFinalize 3),
            .call (.transportFinalize "plain" 2 magic true), .change (.transport none),
            .call (.moduleClosed 0 "commands")] := by
  intro built
  obtain ⟨hardware, granted⟩ : ∃ hardware, built.1 = .ok hardware := ⟨_, rfl⟩
  obtain ⟨command, transport, status, nested, magic, bound, looked, -, -, dropped, -⟩ :=
    teardown_protocol granted built.2
  have made : (built.1.toOption.map fun hardware =>
      (hardware.command,
        hardware.transport.map fun context =>
          (context.plugin, context.number, decide context.Finalizable),
        (hardware.library.nestedTransport ⟨3, 64, 2⟩ ()).1,
        (hardware.library.opened.number, hardware.library.opened.path))) =
      some (some ⟨3, 64, 2⟩, some ("plain", 2, true), (0, some 7), (0, "commands")) := by
    rfl
  rw [granted] at made
  simp only [Except.toOption, Option.map_some, bound.hasCommand, bound.hasTransport,
    Option.some.injEq, Prod.mk.injEq, decide_eq_true_eq] at made
  obtain ⟨rfl, ⟨named, numbered, usable⟩, answered, closed, path⟩ := made
  obtain ⟨rfl, rfl⟩ := Prod.mk.inj (looked.symm.trans answered)
  refine ⟨hardware, magic, granted, (dropped 2).2.1.trans ?_⟩
  have loaded : built.2.transport.isSome = true := rfl
  simp [named, numbered, usable, closed, path, loaded]

end Command.Hardware

end CryptoProvider
