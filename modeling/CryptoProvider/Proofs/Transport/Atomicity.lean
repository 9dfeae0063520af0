import CryptoProvider.Proofs.Renaming.Transport
import CryptoProvider.Proofs.Transport.Succession

/-!
A load that fails might as well not have been made. It leaves the slots as they were and its module
closed; and whatever is done next is done as without it, except that numbers were given out which
are not given out again.
-/

set_option autoImplicit false

namespace CryptoProvider.Transport

open Ledger Client

variable {ω : Type}

/-- Two runs in one and the same world, in which the same happens up to the numbers given out. -/
def exactly (ω : Type) (first second : Nat) : Comparison ω where
  naming := renumber first second
  worlds := Eq
  view := id

/-- Clients that hold the same contexts, in two runs. -/
structure Clients (c : Comparison ω) (outset : Outset) (s t : Client ω) : Prop where
  platforms : Parallel c outset s.toPlatform t.toPlatform
  contexts : t.contexts = s.contexts.map (Option.map (Context.rename c.naming))

section

variable {first second : Nat} {outset : Outset}

theorem paired_onPlatform {α β : Type} {operation : StateM (Platform ω) α}
    {other : StateM (Platform ω) β} {c : Comparison ω} {answers : α → β → Prop}
    (paired : Pair (Parallel c outset) operation other fun a b s t =>
      answers a b ∧ Parallel c outset s t) :
    Pair (Clients c outset) (onPlatform operation) (onPlatform other) fun a b s t =>
      answers a b ∧ Clients c outset s t := by
  intro s t clients
  obtain ⟨answered, platforms⟩ := paired s.toPlatform t.toPlatform clients.platforms
  exact ⟨answered, platforms, clients.contexts⟩

theorem paired_release (place : Nat) {rest : Context ω → Option (Context ω)}
    (renamed : ∀ context naming,
      rest (context.rename naming) = (rest context).map (Context.rename naming)) :
    Pair (Clients (exactly ω first second) outset) (release place rest) (release place rest)
      fun _ _ => Clients (exactly ω first second) outset := by
  unfold release
  refine Pair.bind Pair.get fun s t => Pair.given fun clients => ?_
  have held : t.contexts[place]?.join =
      s.contexts[place]?.join.map (Context.rename (renumber first second)) := by
    rw [clients.contexts, List.getElem?_map]
    cases s.contexts[place]? <;> rfl
  rw [held]
  cases s.contexts[place]?.join with
  | none => exact .pure fun _ _ clients => clients
  | some context =>
    have steady : context.Steady (exactly ω first second).worlds := fun _ _ _ => .eq _
    refine Pair.bind_map (paired_onPlatform ((Context.paired_finalize steady).weaken
      fun _ _ _ _ ⟨same, _, parallel⟩ => ⟨same, parallel⟩)) fun finalized => ?_
    intro s t clients
    refine ⟨clients.platforms, ?_⟩
    change t.contexts.set place _ = (s.contexts.set place _).map _
    rw [clients.contexts, List.map_set, renamed]

theorem paired_keep (loaded : Except Error (Context ω)) :
    Pair (Clients (exactly ω first second) outset) (keep loaded)
      (keep (loaded.map (Context.rename (renumber first second)))) fun reply other s t =>
        other = reply ∧ Clients (exactly ω first second) outset s t := by
  cases loaded with
  | error cause => exact .pure fun _ _ clients => ⟨rfl, clients⟩
  | ok context =>
    intro s t clients
    refine ⟨rfl, clients.platforms, ?_⟩
    change t.contexts ++ [_] = (s.contexts ++ [some context]).map _
    rw [clients.contexts, List.map_append]
    rfl

theorem describe?_parallel {c : Comparison ω} {s t : Platform ω}
    (parallel : Parallel c outset s t) : describe? t = describe? s := by
  have described (loaded : Option (Loaded ω)) :
      loaded.map Loaded.description = (loaded.map (·.content)).map Loaded.description := by
    rw [Option.map_map]
    rfl
  rw [describe?_eq, describe?_eq, described s.transport, described t.transport, parallel.transport]

theorem paired_perform [Memory ω] (operation : Operation ω) :
    Pair (Clients (exactly ω first second) outset) operation.perform operation.perform
      fun reply other s t => other = reply ∧ Clients (exactly ω first second) outset s t := by
  have replied {value : Reply} : Pair (Clients (exactly ω first second) outset)
      (Pure.pure value) (Pure.pure value)
      fun reply other s t => other = reply ∧ Clients (exactly ω first second) outset s t :=
    .pure fun _ _ clients => ⟨rfl, clients⟩
  cases operation with
  | load loader name config =>
    refine Pair.bind_map (paired_onPlatform
      ((paired_load Memory.Steady.eq loader.steady_eq name config).weaken
        fun _ _ _ _ ⟨same, _, parallel⟩ => ⟨same, parallel⟩)) fun loaded => paired_keep loaded
  | unload =>
    have unloaded : Pair (Parallel (exactly ω first second) outset) Transport.unload
        Transport.unload fun a b s t => b = a ∧ Parallel (exactly ω first second) outset s t :=
      paired_unload.weaken fun _ _ _ _ parallel => ⟨rfl, parallel⟩
    exact Pair.bind_map (paired_onPlatform unloaded) fun _ => replied
  | describe =>
    refine Pair.bind Pair.get fun s t => Pair.given fun clients => ?_
    rw [describe?_parallel clients.platforms]
    exact replied
  | isLoaded =>
    refine Pair.bind Pair.get fun s t => Pair.given fun clients => ?_
    rw [Transport.isLoaded, Transport.isLoaded, clients.platforms.occupied]
    exact replied
  | isPresent loader name =>
    exact Pair.bind_map (paired_onPlatform (paired_isPresent loader.steady_eq name))
      fun _ => replied
  | finalize place => exact .bind (paired_release place fun _ _ => rfl) fun _ _ => replied
  | drop place => exact .bind (paired_release place fun _ _ => rfl) fun _ _ => replied
  | outside act =>
    exact Pair.bind_map (paired_onPlatform (Parallel.consult (.eq act))) fun _ => replied

/-- The same operations get the same replies, and do the same. -/
theorem paired_play [Memory ω] (operations : List (Operation ω)) :
    Pair (Clients (exactly ω first second) outset) (play operations) (play operations)
      fun replies others s t => others = replies ∧ Clients (exactly ω first second) outset s t := by
  induction operations with
  | nil => exact .pure fun _ _ clients => ⟨rfl, clients⟩
  | cons operation rest ih =>
    refine Pair.bind_map (paired_perform operation) fun reply => ?_
    refine Pair.bind_map ih fun replies => ?_
    exact .pure fun _ _ clients => ⟨rfl, clients⟩

end

/-- Whatever is done from now on, in the same world, is done alike by two clients: it gets the same
replies, and the events are the same but for the numbers given out meanwhile. -/
def GoOnAlike [Memory ω] (s t : Client ω) : Prop :=
  ∀ operations : List (Operation ω),
    (play operations t).1 = (play operations s).1 ∧
    (after operations t).outside = (after operations s).outside ∧
    (after operations t).contexts = (after operations s).contexts.map
      (Option.map (Context.rename (renumber s.next t.next))) ∧
    ∃ made, (after operations s).events = s.events ++ made ∧
      (after operations t).events =
        t.events ++ made.map (Event.rename (renumber s.next t.next))

theorem goOnAlike [Memory ω] {s t : Client ω} (outside : t.outside = s.outside)
    (transport : t.transport = s.transport) (registries : t.registries = s.registries)
    (contexts : t.contexts = s.contexts)
    (known : ∀ context, some context ∈ s.contexts → context.number < s.next) :
    GoOnAlike s t := by
  intro operations
  let outset : Outset := ⟨s.events, t.events, s.pool, t.pool⟩
  have platforms : Parallel (exactly ω s.next t.next) outset s.toPlatform t.toPlatform :=
    .start outside.symm (renumber_ahead _ _) (by rw [transport]) (by rw [registries])
  -- The contexts that were given out before keep their numbers.
  have same :
      t.contexts = s.contexts.map (Option.map (Context.rename (renumber s.next t.next))) := by
    rw [contexts]
    conv_lhs => rw [← List.map_id s.contexts]
    apply List.map_congr_left
    intro held member
    cases held with
    | none => rfl
    | some context => simp [Context.rename, renumber_of_lt (known context member)]
  obtain ⟨replies, played⟩ := paired_play operations s t ⟨platforms, same⟩
  obtain ⟨made, others, first, second, alike⟩ := played.platforms.events
  refine ⟨replies, played.platforms.worlds.symm, played.contexts, made, first, ?_⟩
  have renamed : made.map (Event.rename (renumber s.next t.next)) = others :=
    alike.trans (List.map_id _)
  rw [renamed]
  exact second

/-- A load never gives a number out again. -/
theorem next_le_load [Memory ω] (loader : ModuleLoader ω) (name : String) (config : Option String)
    (s : Platform ω) : s.next ≤ (load loader name config s).2.next :=
  (advances_load loader name config s).next

/-- A load that fails is atomic: the slots are as before, what it opened is closed, and it failed at
the first stage that went wrong. Whatever is done later is done as if it had not been made. -/
theorem failed_load_is_atomic [Memory ω] (loader : ModuleLoader ω) (name : String)
    (config : Option String) (s : Platform ω) (cause : Error) (empty : s.transport = none)
    (failed : (load loader name config s).1 = .error cause) :
    slots (load loader name config s).2 = slots s ∧
    (∃ acts, (load loader name config s).2.acts = s.acts ++ acts ∧ Undone acts) ∧
    (∃ stage, (firstFailure loader name config s.outside).1 = some stage ∧
      cause = stage.error name) ∧
    s.next ≤ (load loader name config s).2.next ∧
    ∀ world contexts, (∀ context, some context ∈ contexts → context.number < s.next) →
      GoOnAlike ⟨{ s with outside := world }, contexts⟩
        ⟨{ (load loader name config s).2 with outside := world }, contexts⟩ := by
  have vacant : (slots s).transport = none := empty
  have loaded := asked_load vacant loader name config s ⟨rfl, rfl, rfl⟩
  rw [failed] at loaded
  obtain ⟨stage, acts, undone, -, told, kept⟩ := loaded
  refine ⟨kept, ⟨acts, told, undone⟩, stage, next_le_load loader name config s, ?_⟩
  intro world contexts known
  exact goOnAlike rfl (congrArg Slots.transport kept) (congrArg Slots.registries kept) rfl known

theorem failed_load_is_atomic_refused :
    (Platform.clean ()).transport = none ∧
    (load (Answering.loader 5 0) "plain" none (Platform.clean ())).1 =
      .error (.transportStart "plain" 5) ∧
    GoOnAlike ⟨Platform.clean (), []⟩
      ⟨(load (Answering.loader 5 0) "plain" none (Platform.clean ())).2, []⟩ :=
  ⟨rfl, rfl, (failed_load_is_atomic (Answering.loader 5 0) "plain" none (Platform.clean ())
    (.transportStart "plain" 5) rfl rfl).2.2.2.2 () [] nofun⟩

end CryptoProvider.Transport
