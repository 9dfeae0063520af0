import CryptoProvider.Proofs.Ledger.Calm
import CryptoProvider.Proofs.Transport.Loading
import Mathlib.Data.List.Induction

/-!
The transport loader over whole histories: loads, unloads, questions and probes in any order, while
the contexts that were given out are finalized and dropped. The slot holds the transport of the last
load that succeeded, until it is unloaded.
-/

set_option autoImplicit false

namespace CryptoProvider.Transport

open Ledger

variable {ω : Type}

/-- The process and the contexts its callers were given, in order; none in a place once the context
is dropped. -/
structure Client (ω : Type) extends Platform ω where
  contexts : List (Option (Context ω))

inductive Operation (ω : Type) where
  | load (loader : ModuleLoader ω) (name : String) (config : Option String)
  | unload
  | describe
  | isLoaded
  | isPresent (loader : ModuleLoader ω) (name : String)
  | finalize (place : Nat)
  | drop (place : Nat)
  | outside (act : StateM ω Unit)

inductive Reply where
  | done
  | made (size : Nat)
  | refused (cause : Error)
  | flag (value : Bool)
  | described (description : Option Description)
  deriving DecidableEq

namespace Client

def onPlatform {α : Type} (operation : StateM (Platform ω) α) : StateM (Client ω) α := fun s =>
  let (a, platform) := operation s.toPlatform
  (a, { s with toPlatform := platform })

def keep (loaded : Except Error (Context ω)) : StateM (Client ω) Reply :=
  match loaded with
  | .error cause => return .refused cause
  | .ok context => do
    modify fun s => { s with contexts := s.contexts ++ [some context] }
    return .made context.size

/-- Finalizes the context in a place, if there is one, and leaves there what `rest` says. -/
def release (place : Nat) (rest : Context ω → Option (Context ω)) : StateM (Client ω) Unit := do
  match (← get).contexts[place]?.join with
  | none => pure ()
  | some context =>
    let finalized ← onPlatform context.finalize
    modify fun s => { s with contexts := s.contexts.set place (rest finalized) }

end Client

open Client

def Operation.perform [Memory ω] : Operation ω → StateM (Client ω) Reply
  | .load loader name config => do keep (← onPlatform (Transport.load loader name config))
  | .unload => do
    onPlatform Transport.unload
    return .done
  | .describe => return .described (describe? (← get).toPlatform)
  | .isLoaded => return .flag (Transport.isLoaded (← get).toPlatform)
  | .isPresent loader name => return .flag (← onPlatform (Transport.isPresent loader name))
  | .finalize place => do
    release place some
    return .done
  | .drop place => do
    release place fun _ => none
    return .done
  | .outside act => do
    onPlatform (Platform.consult act)
    return .done

def play [Memory ω] : List (Operation ω) → StateM (Client ω) (List Reply)
  | [] => return []
  | operation :: rest => return (← operation.perform) :: (← play rest)

def after [Memory ω] (operations : List (Operation ω)) (s : Client ω) : Client ω :=
  (play operations s).2

theorem after_append [Memory ω] (first second : List (Operation ω)) (s : Client ω) :
    after (first ++ second) s = after second (after first s) := by
  induction first generalizing s with
  | nil => rfl
  | cons operation rest ih => exact ih (operation.perform s).2

theorem after_snoc [Memory ω] (operations : List (Operation ω)) (last : Operation ω)
    (s : Client ω) :
    after (operations ++ [last]) s = (last.perform (after operations s)).2 :=
  after_append operations [last] s

/-- What a loaded transport says about itself, as the loader reports it. -/
def Loaded.description (loaded : Loaded ω) : Description :=
  describe loaded.library loaded.info.value

/-- What is read from a plugin now is what was read when it was loaded. -/
theorem describe?_eq (s : Platform ω) : describe? s = s.transport.map Loaded.description := by
  unfold describe?
  congr 1
  funext loaded
  rw [loaded.info.unchanged]
  rfl

theorem unload_transport (s : Platform ω) : (unload s).2.transport = none := by
  have told := told_unload s ⟨rfl, rfl⟩
  exact transport_of_slots told.2

theorem unload_calls (s : Platform ω) : (unload s).2.calls = s.calls := by
  have told := told_unload s ⟨rfl, rfl⟩
  rw [calls_of_acts, calls_of_acts, told.1, List.filterMap_append]
  split <;> simp [Act.call?]

theorem unload_of_empty {s : Platform ω} (empty : s.transport = none) : unload s = ((), s) := by
  have vacant : ¬ s.transport.isSome := by simp [empty]
  unfold unload
  rw [bind_apply]
  exact congrFun (if_neg vacant) s

theorem load_refused [Memory ω] {loader : ModuleLoader ω} {name : String} {config : Option String}
    {s : Platform ω} {cause : Error} (refused : (load loader name config s).1 = .error cause) :
    slots (load loader name config s).2 = slots s := by
  have loaded := told_load loader name config s ⟨rfl, rfl⟩
  rw [refused] at loaded
  obtain ⟨acts, -, -, told⟩ := loaded
  exact told.2

theorem load_made [Memory ω] {loader : ModuleLoader ω} {name : String} {config : Option String}
    {s : Platform ω} {context : Context ω} (made : (load loader name config s).1 = .ok context) :
    ∃ module info, (offer loader name s.outside).1 = some info ∧
      (load loader name config s).2.transport = some ⟨module, info, name⟩ := by
  cases empty : s.transport with
  | some loaded =>
    rw [load_of_occupied (by simp [empty])] at made
    cases made
  | none =>
    have vacant : (slots s).transport = none := empty
    have loaded := asked_load vacant loader name config s ⟨rfl, rfl, rfl⟩
    rw [made] at loaded
    obtain ⟨-, -, module, info, acts, offered, -, -, told⟩ := loaded
    exact ⟨module, info, offered, transport_of_slots told.2⟩

theorem release_eq (place : Nat) (rest : Context ω → Option (Context ω)) (s : Client ω) :
    release place rest s =
      match s.contexts[place]?.join with
      | none => ((), s)
      | some context =>
        let (finalized, platform) := context.finalize s.toPlatform
        ((), { platform with contexts := s.contexts.set place (rest finalized) }) := by
  have read : release place rest s =
      (match s.contexts[place]?.join with
        | none => pure ()
        | some context => do
          let finalized ← onPlatform context.finalize
          modify fun s => { s with contexts := s.contexts.set place (rest finalized) } :
        StateM (Client ω) Unit) s := rfl
  rw [read]
  cases s.contexts[place]?.join with
  | none => rfl
  | some context => rfl

theorem release_transport (place : Nat) (rest : Context ω → Option (Context ω)) (s : Client ω) :
    (release place rest s).2.transport = s.transport := by
  rw [release_eq]
  cases s.contexts[place]?.join with
  | none => rfl
  | some context => exact congrArg Slots.transport (context.calm_finalize s.toPlatform)

/-- A load, as it was asked for. -/
structure Request (ω : Type) where
  loader : ModuleLoader ω
  name : String
  config : Option String

namespace Request

variable (request : Request ω)

def operation : Operation ω :=
  .load request.loader request.name request.config

def run [Memory ω] : StateM (Platform ω) (Except Error (Context ω)) :=
  load request.loader request.name request.config

theorem perform_of_refused [Memory ω] {s : Client ω} {cause : Error}
    (refused : (request.run s.toPlatform).1 = .error cause) :
    request.operation.perform s =
      (.refused cause, { s with toPlatform := (request.run s.toPlatform).2 }) := by
  have answered : request.operation.perform s =
      keep (request.run s.toPlatform).1 { s with toPlatform := (request.run s.toPlatform).2 } := rfl
  rw [answered, refused]
  rfl

theorem perform_of_made [Memory ω] {s : Client ω} {context : Context ω}
    (made : (request.run s.toPlatform).1 = .ok context) :
    request.operation.perform s =
      (.made context.size,
        { s with
          toPlatform := (request.run s.toPlatform).2
          contexts := s.contexts ++ [some context] }) := by
  have answered : request.operation.perform s =
      keep (request.run s.toPlatform).1 { s with toPlatform := (request.run s.toPlatform).2 } := rfl
  rw [answered, made]
  rfl

end Request

/-- A load that was granted after the operations `earlier`, with no unload since. -/
inductive InForce [Memory ω] (s : Client ω) (earlier : List (Operation ω)) (request : Request ω) :
    List (Operation ω) → Prop where
  | intro (later : List (Operation ω)) (context : Context ω)
      (granted : (request.run (after earlier s).toPlatform).1 = .ok context)
      (kept : .unload ∉ later) :
      InForce s earlier request (earlier ++ request.operation :: later)

/-- What one operation makes of the slot: a load that is granted fills it, an unload empties it, and
everything else leaves it as it is. -/
theorem perform_transport [Memory ω] (operation : Operation ω) (s : Client ω) :
    (operation.perform s).2.transport = s.transport ∨
      operation = .unload ∧ (operation.perform s).2.transport = none ∨
      ∃ request : Request ω, ∃ context, operation = request.operation ∧
        (request.run s.toPlatform).1 = .ok context := by
  cases operation with
  | load loader name config =>
    let request : Request ω := ⟨loader, name, config⟩
    cases answered : (request.run s.toPlatform).1 with
    | ok context => exact .inr (.inr ⟨request, context, rfl, answered⟩)
    | error cause =>
      refine .inl ?_
      change (request.operation.perform s).2.transport = s.transport
      rw [request.perform_of_refused answered]
      exact congrArg Slots.transport (load_refused answered)
  | unload => exact .inr (.inl ⟨rfl, unload_transport s.toPlatform⟩)
  | describe => exact .inl rfl
  | isLoaded => exact .inl rfl
  | isPresent loader name =>
    exact .inl (congrArg Slots.transport (calm_isPresent loader name s.toPlatform))
  | finalize place => exact .inl (release_transport place _ s)
  | drop place => exact .inl (release_transport place _ s)
  | outside act => exact .inl rfl

-- A slot that is filled keeps what it holds until it is unloaded: no load is granted meanwhile.
theorem transport_kept [Memory ω] {s : Client ω} {loaded : Loaded ω}
    (filled : s.transport = some loaded)
    {operations : List (Operation ω)} (kept : .unload ∉ operations) :
    (after operations s).transport = some loaded := by
  induction operations generalizing s with
  | nil => exact filled
  | cons operation rest ih =>
    rw [List.mem_cons, not_or] at kept
    refine ih (s := (operation.perform s).2) ?_ kept.2
    rcases perform_transport operation s with same | ⟨unloads, -⟩ | ⟨request, context, -, made⟩
    · exact same.trans filled
    · exact absurd unloads.symm kept.1
    · unfold Request.run at made
      rw [load_of_occupied (by simp [filled])] at made
      cases made

/-- The transport of a load in force is in the slot, as its plugin described it at the time. -/
theorem InForce.transport [Memory ω] {s : Client ω} {earlier operations : List (Operation ω)}
    {request : Request ω} (force : InForce s earlier request operations) :
    ∃ module info,
      (offer request.loader request.name (after earlier s).outside).1 = some info ∧
      (after operations s).transport = some ⟨module, info, request.name⟩ := by
  obtain ⟨later, context, granted, kept⟩ := force
  obtain ⟨module, info, offered, filled⟩ := load_made granted
  refine ⟨module, info, offered, ?_⟩
  rw [after_append]
  refine transport_kept (s := (request.operation.perform (after earlier s)).2) ?_ kept
  rw [request.perform_of_made granted]
  exact filled

/-- The slot is filled only by a load in force. -/
theorem inForce_of_loaded [Memory ω] {s : Client ω} (empty : s.transport = none)
    (operations : List (Operation ω)) (filled : (after operations s).transport.isSome) :
    ∃ earlier request, InForce s earlier request operations := by
  induction operations using List.reverseRecOn with
  | nil =>
    have vacant : (after [] s).transport = none := empty
    rw [vacant] at filled
    cases filled
  | append_singleton operations last ih =>
    rw [after_snoc] at filled
    rcases perform_transport last (after operations s) with same | ⟨-, emptied⟩ | ⟨request, context,
      rfl, made⟩
    · have still : (after operations s).transport.isSome := same ▸ filled
      obtain ⟨earlier, request, later, context, granted, kept⟩ := ih still
      have loads : last ≠ .unload := by
        rintro rfl
        rw [show (Operation.unload.perform _).2.transport = none from unload_transport _] at filled
        cases filled
      rw [List.append_assoc]
      refine ⟨earlier, request, .intro (later ++ [last]) context granted ?_⟩
      simp [kept, loads.symm]
    · rw [emptied] at filled
      cases filled
    · exact ⟨operations, request, .intro [] context made List.not_mem_nil⟩

/-- From an empty slot, whatever is done: a transport is loaded just if a load is in force. It is
described as it was at that load, every other load is refused with no more than a notice, and
unloading it calls nobody, so it closes no module, and is done at once. -/
theorem slot_follows_history [Memory ω] (s : Client ω) (empty : s.transport = none)
    (operations : List (Operation ω)) :
    (isLoaded (after operations s).toPlatform = true ↔
      ∃ earlier request, InForce s earlier request operations) ∧
    (∀ earlier request, InForce s earlier request operations →
      (∃ module info,
        (offer request.loader request.name (after earlier s).outside).1 = some info ∧
        describe? (after operations s).toPlatform =
          some (Loaded.description ⟨module, info, request.name⟩)) ∧
      ∀ other : Request ω, other.operation.perform (after operations s) =
        (.refused .transportOccupied,
          { after operations s with
            toPlatform :=
              (Platform.note (.transportOccupied other.name) (after operations s).toPlatform).2 })) ∧
    (after (operations ++ [.unload]) s).calls = (after operations s).calls ∧
    isLoaded (after (operations ++ [.unload]) s).toPlatform = false ∧
    after (operations ++ [.unload, .unload]) s = after (operations ++ [.unload]) s := by
  have unloaded (t : Client ω) : (Operation.unload.perform t).2.transport = none :=
    unload_transport t.toPlatform
  refine ⟨⟨inForce_of_loaded empty operations, ?_⟩, ?_, ?_, ?_, ?_⟩
  · rintro ⟨earlier, request, force⟩
    obtain ⟨module, info, -, filled⟩ := force.transport
    simp [isLoaded, filled]
  · intro earlier request force
    obtain ⟨module, info, offered, filled⟩ := force.transport
    constructor
    · refine ⟨module, info, offered, ?_⟩
      rw [describe?_eq, filled]
      rfl
    · intro other
      have occupied : (after operations s).transport.isSome := by simp [filled]
      have refusal := load_of_occupied occupied other.loader other.name other.config
      have refused : (other.run (after operations s).toPlatform).1 = .error .transportOccupied :=
        congrArg Prod.fst refusal
      have noted : (other.run (after operations s).toPlatform).2 =
          (Platform.note (.transportOccupied other.name) (after operations s).toPlatform).2 :=
        congrArg Prod.snd refusal
      rw [other.perform_of_refused refused, noted]
  · rw [after_snoc]
    exact unload_calls (after operations s).toPlatform
  · rw [after_snoc]
    exact congrArg Option.isSome (unloaded _)
  · rw [after_append, after_append]
    have again := unload_of_empty (unloaded (after operations s))
    exact congrArg (fun platform : Platform ω =>
      { (Operation.unload.perform (after operations s)).2 with toPlatform := platform })
      (congrArg Prod.snd again)

theorem slot_follows_history_dropped :
    (Client.mk (Platform.clean ()) []).transport = none ∧
    ∃ earlier request, InForce ⟨Platform.clean (), []⟩ earlier request
      [.load (Answering.loader 0 0) "plain" none, .load (Answering.loader 0 0) "other" none,
        .drop 0] :=
  ⟨rfl, (slot_follows_history ⟨Platform.clean (), []⟩ rfl
    [.load (Answering.loader 0 0) "plain" none, .load (Answering.loader 0 0) "other" none,
      .drop 0]).1.mp (by decide +kernel)⟩

end CryptoProvider.Transport
