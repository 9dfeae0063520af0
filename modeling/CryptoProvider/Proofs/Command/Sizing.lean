import CryptoProvider.Proofs.Command.BringUp
import CryptoProvider.Proofs.Transport.Sizing

/-!
How the two contexts of the hardware get their sizes: each collaborator is asked for a size first,
and is then given a zeroed buffer of just that size, once and only if there can be such a buffer.
-/

set_option autoImplicit false

namespace CryptoProvider.Command.Hardware

open Ledger Transport

variable {ω : Type} {world : ω} {past : List Act} {contents : Slots ω}

/-- The calls that make a command context among others. -/
def isStart : Call → Bool
  | .commandSize _ _ | .commandStart _ _ _ _ _ _ => true
  | _ => false

theorem heard_then (acts : List Act) {act : Act} (silent : heard isStart [act] = []) :
    heard isStart (acts ++ [act]) = heard isStart acts := by
  rw [heard_append, silent, List.append_nil]

theorem isStart_of_probes {module : Nat} {call : Call} (probes : probesModule module call) :
    isStart call = false := by
  cases call <;> first | rfl | cases probes

theorem heard_probes {module : Nat} {probes : List Call}
    (probed : ∀ call ∈ probes, probesModule module call) :
    heard isStart (probes.map .call) = [] := by
  induction probes with
  | nil => rfl
  | cons call rest ih =>
    obtain ⟨one, others⟩ := List.forall_mem_cons.mp probed
    have apart : (call :: rest).map Act.call = [.call call] ++ rest.map .call := rfl
    rw [apart, heard_append, ih others]
    simp [heard, Act.call?, isStart_of_probes one]

theorem heard_undone {acts : List Act} (undone : Undone acts) : heard isStart acts = [] := by
  cases undone with
  | missed paths => exact heard_missing (fun _ => rfl) paths
  | closed paths module path probes probed =>
    rw [heard_append, heard_missing fun _ => rfl]
    change heard isStart (probes.map .call ++ _) = []
    rw [heard_append, heard_probes probed]
    rfl

theorem heard_begun {module : Nat} {context : Context ω} {acts : List Act}
    (begun : Begun module context acts) : heard isStart acts = [] := by
  cases begun with
  | intro paths path probes probed config size zeroed =>
    rw [heard_append, heard_missing fun _ => rfl]
    change heard isStart (probes.map .call ++ _) = []
    rw [heard_append, heard_probes probed]
    rfl

theorem heard_releases (context : Context ω) (loaded : Bool) :
    heard isStart (context.releases loaded) = [] := by
  unfold Context.releases
  cases context.finalizer? <;> rfl

-- A library that cannot be used is not asked for anything.
theorem heard_unopened {path : String} {acts : List Act}
    (unwound : Unwound (ω := ω) path true acts) : heard isStart acts = [] := by
  cases unwound <;> rfl

/-- Whatever is let go after a bind that failed, no command context is made on the way. -/
theorem heard_unwinding (library : Library ω) {context : Context ω}
    (unfinished : context.finalized = false) (s : Platform ω) :
    heard isStart (library.close (unload (context.finalize s).2).2).2.acts =
      heard isStart s.acts := by
  have finalized := Context.told_finalize unfinished s ⟨rfl, rfl⟩
  have unloaded := told_unload _ finalized
  have closed := asked_close library _ ⟨rfl, unloaded⟩
  have emptied : heard isStart
      (if (slots s).transport.isSome then [.change (.transport none)] else []) = [] := by
    split <;> rfl
  rw [closed.2.1, heard_then _ rfl, heard_append, heard_append, heard_releases, emptied,
    List.append_nil, List.append_nil]

/-- What a command library is asked to make a command context over a transport context, in the world
that it finds; and whether it makes one. -/
def Made [Memory ω] (library : Library ω) (context : Context ω) (world : ω) (calls : List Call)
    (made : Bool) : Prop :=
  let size := (library.contextSize 0 world).1
  let memory := Memory.grants size (library.contextSize 0 world).2
  if Buffer.Possible size ∧ memory.1 = true then
    ∃ number,
      let context : CommandContext := ⟨number, size, context.number⟩
      let status := (library.start context AbiVersion.current memory.2).1
      calls = [.commandSize 0 size,
        .commandStart number size true context.transport AbiVersion.current status] ∧
      (made ↔ status = 0)
  else calls = [.commandSize 0 size] ∧ made = false

theorem heard_bind [Memory ω] (library : Library ω) (context : Context ω) (s : Platform ω) :
    ∃ calls,
      heard isStart (bind library context s).2.acts = heard isStart s.acts ++ calls ∧
      Made library context s.outside calls (bind library context s).1.toOption.isSome := by
  have bound := asked_bind library context s ⟨rfl, rfl, rfl⟩
  unfold Made
  dsimp only at bound ⊢
  simp only [← Buffer.available_iff]
  split at bound
  case isTrue room =>
    obtain ⟨number, answered, -, told, -⟩ := bound
    rw [Buffer.available_of_possible (Buffer.available_iff.mp room).1] at answered told
    simp only [if_pos room]
    rw [told, heard_append, answered]
    refine ⟨_, rfl, number, rfl, ?_⟩
    split <;> simp [Except.toOption, *]
  case isFalse short =>
    obtain ⟨answered, -, told, -⟩ := bound
    simp only [if_neg short]
    rw [told, heard_append, answered]
    exact ⟨_, rfl, rfl, rfl⟩

section

variable {loader : ModuleLoader ω} {path : String} {spec : Spec} {s t u : Platform ω}
  {library : Library ω}

theorem bringUp_of_unopened [Memory ω] {cause : Error}
    (opened : Library.openAt loader path s = (.error cause, t)) :
    bringUp loader path spec s = (.error cause, t) := by
  simp only [bringUp, bind_apply, opened]
  rfl

variable (opened : Library.openAt loader path s = (.ok library, t))

include opened

theorem bringUp_of_unloaded [Memory ω] {cause : Error}
    (loaded : load loader spec.name spec.config t = (.error cause, u)) :
    bringUp loader path spec s = (.error cause, (library.close u).2) := by
  simp only [bringUp, bind_apply, opened, loaded]
  rfl

theorem bringUp_of_loaded [Memory ω] {context : Context ω}
    (loaded : load loader spec.name spec.config t = (.ok context, u)) :
    bringUp loader path spec s =
      match bind library context u with
      | (.error cause, v) =>
        (.error cause, (library.close (unload (context.finalize v).2).2).2)
      | (.ok command, v) =>
        (.ok ⟨library, some command, some context⟩,
          (Platform.note (.commandContextBound spec.name) v).2) := by
  simp only [bringUp, bind_apply, opened, loaded]
  obtain ⟨cause | command, v⟩ := bind library context u <;> rfl

end

theorem heard_bringUp [Memory ω] (loader : ModuleLoader ω) (path : String) (spec : Spec)
    (s : Platform ω) :
    let opened := Library.openAt loader path s
    let loaded := load loader spec.name spec.config opened.2
    let built := bringUp loader path spec s
    ∃ calls, heard isStart built.2.acts = heard isStart s.acts ++ calls ∧
      match opened.1, loaded.1 with
      | .ok library, .ok context =>
        Made library context loaded.2.outside calls built.1.toOption.isSome
      | _, _ => calls = [] ∧ built.1.toOption.isSome = false := by
  have opening := told_openAt loader path s ⟨rfl, rfl⟩
  cases opened : Library.openAt loader path s with | mk found t
  rw [opened] at opening
  cases found with
  | error cause =>
    obtain ⟨acts, unwound, told⟩ := opening
    rw [bringUp_of_unopened opened]
    refine ⟨[], ?_, rfl, rfl⟩
    rw [told.1, heard_append, heard_unopened (unwound true)]
  | ok library =>
    have unchanged : heard isStart t.acts = heard isStart s.acts := by
      rw [opening.2.1, heard_then _ rfl]
    have loading := told_load loader spec.name spec.config t ⟨rfl, rfl⟩
    cases loaded : load loader spec.name spec.config t with | mk filled u
    rw [loaded] at loading
    simp only [loaded]
    cases filled with
    | error cause =>
      obtain ⟨acts, undone, -, told⟩ := loading
      have closed := asked_close library u ⟨rfl, told⟩
      rw [bringUp_of_unloaded opened loaded]
      refine ⟨[], ?_, rfl, rfl⟩
      refine (congrArg (heard isStart) closed.2.1).trans ?_
      rw [heard_then _ rfl, heard_append, heard_undone undone, unchanged]
    | ok context =>
      obtain ⟨empty, unfinished, module, info, acts, begun, told⟩ := loading
      obtain ⟨calls, asked, made⟩ := heard_bind library context u
      have before : heard isStart u.acts = heard isStart s.acts := by
        rw [told.1, heard_append, heard_then _ rfl, heard_begun begun, unchanged, List.append_nil]
      rw [before] at asked
      rw [bringUp_of_loaded opened loaded]
      cases tried : bind library context u with | mk bound v
      rw [tried] at asked made
      cases bound with
      | error cause => exact ⟨calls, (heard_unwinding library unfinished v).trans asked, made⟩
      | ok command =>
        have noted : Told v.acts (slots v) (Platform.note (.commandContextBound spec.name) v).2 :=
          Told.note v ⟨rfl, rfl⟩
        refine ⟨calls, ?_, made⟩
        exact (congrArg (heard isStart) noted.1).trans asked

/-- How contexts get their sizes. A load calls the start routine that its plugin supplies in two
phases and makes a context of the reported size if both calls succeed. Bringing the hardware up
then asks the command library for a size and starts it once, over the context just loaded, if there
can be a buffer of that size. -/
theorem two_phase_sizing [Memory ω] (loader : ModuleLoader ω) (s : Platform ω) :
    (∀ name config,
      let initialized := initializer loader name s
      let loaded := load loader name config s
      ∃ shown,
        heard Transport.isStart loaded.2.acts = heard Transport.isStart s.acts ++ shown ∧
        Sized initialized.1 config initialized.2 loaded.2.outside shown
          (loaded.1.toOption.map Context.size)) ∧
    ∀ path (spec : Spec),
      let opened := Library.openAt loader path s
      let loaded := load loader spec.name spec.config opened.2
      let built := bringUp loader path spec s
      ∃ shown, heard isStart built.2.acts = heard isStart s.acts ++ shown ∧
        match opened.1, loaded.1 with
        | .ok library, .ok context =>
          Made library context loaded.2.outside shown built.1.toOption.isSome
        | _, _ => shown = [] ∧ built.1.toOption.isSome = false :=
  ⟨fun name config => load_sized loader name config s, fun path spec =>
    heard_bringUp loader path spec s⟩

/-- A world that has only so many bytes to give. -/
structure Budget where
  bytes : Nat

instance : Memory Budget where
  grants size := fun world =>
    if size ≤ world.bytes then (true, ⟨world.bytes - size⟩) else (false, world)

namespace Budget

/-- A start routine that stores another size in the second call. -/
def routine : StartRoutine Budget := fun context _ _ =>
  pure ⟨0, if context.isNone then 64 else 4096, none⟩

def loader : ModuleLoader Budget where
  reported := true
  find _ := pure (some
    { transport := some ⟨"plain", pure (some (.of ⟨2, none, none, none, some routine⟩))⟩
      command :=
        { contextSize := some fun _ => pure 48
          start := some fun _ _ => pure 0
          nestedTransport := some fun context => pure (0, some context.transport)
          finalize := some fun _ => pure () } })

end Budget

-- The transport context takes what the command context would need.
theorem two_phase_sizing_short :
    let s := Platform.clean (Budget.mk 100)
    let built := bringUp Budget.loader "commands" ⟨"plain", none⟩ s
    (∃ shown, Sized (some Budget.routine) none ⟨100⟩ ⟨36⟩ shown (some 64)) ∧
      heard isStart built.2.acts = [.commandSize 0 48] ∧ built.1.toOption.isSome = false := by
  intro s built
  obtain ⟨sizing, starting⟩ := two_phase_sizing Budget.loader s
  obtain ⟨shown, -, sized⟩ := sizing "plain" none
  obtain ⟨calls, asked, short, failed⟩ := starting "commands" ⟨"plain", none⟩
  exact ⟨⟨shown, sized⟩, asked.trans short, failed⟩

end CryptoProvider.Command.Hardware
