import CryptoProvider.Proofs.Command.BringUp
import CryptoProvider.Proofs.Histories
import CryptoProvider.Proofs.Transport.Succession

/-!
Hardware contexts over whole histories. Any number of them is brought up, torn down and dropped, in
any order, while other callers load and unload transports and use the contexts they were given.
-/

set_option autoImplicit false

namespace CryptoProvider.Command

open Ledger Transport

variable {ω : Type}

/-- The process, the transport contexts its callers were given and the hardware contexts that were
brought up, in order; none in a place once the context is dropped. -/
structure Client (ω : Type) extends Transport.Client ω where
  hardware : List (Option (Hardware ω))

inductive Operation (ω : Type) where
  | transport (operation : Transport.Operation ω)
  | bringUp (loader : ModuleLoader ω) (path : String) (spec : Spec)
  | teardown (place : Nat)
  | drop (place : Nat)

/-- The place of the hardware context that an operation tears down. -/
def Operation.released? : Operation ω → Option Nat
  | .teardown place | .drop place => some place
  | .transport _ | .bringUp _ _ _ => none

namespace Client

def hardware? (s : Client ω) (place : Nat) : Option (Hardware ω) :=
  s.hardware[place]?.join

/-- Whether there is a hardware context in a place that was not torn down. -/
def live (s : Client ω) (place : Nat) : Bool :=
  ((s.hardware? place).bind Hardware.command).isSome

/-- The place of the hardware context that is brought up next. -/
def place (s : Client ω) : Nat :=
  s.hardware.length

def bringUp [Memory ω] (loader : ModuleLoader ω) (path : String) (spec : Spec) (s : Client ω) :
    Client ω :=
  { toPlatform := (Hardware.bringUp loader path spec s.toPlatform).2
    contexts := s.contexts
    hardware := s.hardware ++
      (Hardware.bringUp loader path spec s.toPlatform).1.toOption.toList.map some }

/-- Does something with the hardware context in a place, if there is one, and leaves there what is
left of it. -/
def release (place : Nat) (program : Hardware ω → StateM (Platform ω) (Option (Hardware ω)))
    (s : Client ω) : Client ω :=
  match s.hardware? place with
  | none => s
  | some hardware =>
    { toPlatform := (program hardware s.toPlatform).2
      contexts := s.contexts
      hardware := s.hardware.set place (program hardware s.toPlatform).1 }

end Client

def Operation.perform [Memory ω] (s : Client ω) : Operation ω → Client ω
  | .transport operation => { s with toClient := (operation.perform s.toClient).2 }
  | .bringUp loader path spec => s.bringUp loader path spec
  | .teardown place => s.release place fun hardware => do return some (← hardware.teardown)
  | .drop place => s.release place fun hardware => do
      hardware.drop
      return none

def after [Memory ω] (operations : List (Operation ω)) (s : Client ω) : Client ω :=
  operations.foldl Operation.perform s

theorem after_append [Memory ω] (first second : List (Operation ω)) (s : Client ω) :
    after (first ++ second) s = after second (after first s) :=
  List.foldl_append

theorem after_snoc [Memory ω] (operations : List (Operation ω)) (last : Operation ω)
    (s : Client ω) :
    after (operations ++ [last]) s = last.perform (after operations s) :=
  after_append operations [last] s

namespace Hardware

-- Whatever the contexts answer, the slot is emptied in the end.
theorem teardown_live {hardware : Hardware ω} (live : hardware.command.isSome) (s : Platform ω) :
    (hardware.teardown s).2.transport = none ∧ (hardware.teardown s).1.command = none := by
  obtain ⟨command, found⟩ := Option.isSome_iff_exists.mp live
  have emptied : Ensures (fun _ : Platform ω => True)
      (do
        Transport.unload
        return (⟨hardware.library, none, none⟩ : Hardware ω))
      fun after s => s.transport = none ∧ after.command = none :=
    fun s _ => ⟨unload_transport s, rfl⟩
  have anything {α : Type} {program : StateM (Platform ω) α} :
      Ensures (fun _ => True) program fun _ _ => True := fun _ _ => trivial
  suffices spec : Ensures (fun _ => True) hardware.teardown fun after s =>
      s.transport = none ∧ after.command = none from spec s trivial
  unfold teardown
  rw [found]
  refine Ensures.bind anything fun _ => Ensures.bind anything fun _ => ?_
  refine Ensures.bind anything fun _ => ?_
  cases hardware.transport with
  | none => exact emptied
  | some transport => exact Ensures.bind anything fun _ => emptied

theorem teardown_again {hardware : Hardware ω} (dead : hardware.command = none)
    (s : Platform ω) : hardware.teardown s = (hardware, s) := by
  unfold teardown
  rw [dead]
  rfl

/-- The first teardown empties the slot, and a teardown repeated leaves it. -/
theorem teardown_slot (hardware : Hardware ω) (s : Platform ω) :
    (hardware.teardown s).2.transport =
        (if hardware.command.isSome then none else s.transport) ∧
      (hardware.teardown s).1.command = none := by
  cases command : hardware.command with
  | none =>
    rw [teardown_again command]
    exact ⟨rfl, command⟩
  | some context => exact teardown_live (by simp [command]) s

end Hardware

/-- What an operation does to the slot and to the hardware contexts, one case for each way it can
go. -/
inductive Performed (s : Client ω) : Operation ω → Client ω → Prop where
  | transport {operation : Transport.Operation ω} {t : Transport.Client ω}
      (slot : t.transport = s.transport ∨ operation = .unload ∧ t.transport = none ∨
        s.transport = none) :
      Performed s (.transport operation) ⟨t, s.hardware⟩
  | refused {loader : ModuleLoader ω} {path : String} {spec : Spec} {t : Platform ω}
      (slot : t.transport = s.transport) :
      Performed s (.bringUp loader path spec) ⟨⟨t, s.contexts⟩, s.hardware⟩
  | broughtUp {loader : ModuleLoader ω} {path : String} {spec : Spec} {t : Platform ω}
      {hardware : Hardware ω} {loaded : Loaded ω} (empty : s.transport = none)
      (slot : t.transport = some loaded) (fit : hardware.command.isSome) :
      Performed s (.bringUp loader path spec)
        ⟨⟨t, s.contexts⟩, s.hardware ++ [some hardware]⟩
  | absent {operation : Operation ω} {place : Nat} (released : operation.released? = some place)
      (vacant : s.hardware? place = none) : Performed s operation s
  | released {operation : Operation ω} {place : Nat} {t : Platform ω} {hardware : Hardware ω}
      {rest : Option (Hardware ω)} (released : operation.released? = some place)
      (held : s.hardware? place = some hardware) (torn : rest.bind Hardware.command = none)
      (slot : t.transport = if s.live place then none else s.transport) :
      Performed s operation ⟨⟨t, s.contexts⟩, s.hardware.set place rest⟩

namespace Client

variable {s : Client ω} {place : Nat} {hardware : Hardware ω}

theorem live_of_hardware? (held : s.hardware? place = some hardware) :
    s.live place = hardware.command.isSome := by
  simp [live, held]

theorem performed_bringUp [Memory ω] (loader : ModuleLoader ω) (path : String) (spec : Spec)
    (s : Client ω) : Performed s (.bringUp loader path spec) (s.bringUp loader path spec) := by
  have built := Hardware.told_bringUp loader path spec s.toPlatform ⟨rfl, rfl⟩
  unfold bringUp
  cases answered : (Hardware.bringUp loader path spec s.toPlatform).1 with
  | error cause =>
    rw [answered] at built
    obtain ⟨acts, -, told⟩ := built
    have same : s.hardware ++ (Except.error cause : Except Error (Hardware ω)).toOption.toList.map
        some = s.hardware := List.append_nil _
    rw [same]
    exact .refused (transport_of_slots told.2)
  | ok hardware =>
    rw [answered] at built
    obtain ⟨empty, ⟨command, transport, hasCommand, -⟩, loaded, slot⟩ := built
    exact .broughtUp empty (transport_of_slots slot) (by simp [hasCommand])

theorem performed_release (s : Client ω) {operation : Operation ω} {place : Nat}
    (released : operation.released? = some place)
    {program : Hardware ω → StateM (Platform ω) (Option (Hardware ω))}
    (spec : ∀ hardware t,
      (program hardware t).2.transport =
        (if hardware.command.isSome then none else t.transport) ∧
      (program hardware t).1.bind Hardware.command = none) :
    Performed s operation (s.release place program) := by
  unfold release
  cases held : s.hardware? place with
  | none => exact .absent released held
  | some hardware =>
    obtain ⟨slot, torn⟩ := spec hardware s.toPlatform
    rw [← live_of_hardware? held] at slot
    exact .released released held torn slot

theorem onward_release (s : Client ω) (place : Nat)
    {program : Hardware ω → StateM (Platform ω) (Option (Hardware ω))}
    (advances : ∀ hardware, Advances (program hardware)) :
    Onward s.toPlatform (s.release place program).toPlatform := by
  unfold release
  cases s.hardware? place with
  | none => exact .refl _
  | some hardware => exact advances hardware s.toPlatform

end Client

theorem performed [Memory ω] (s : Client ω) (operation : Operation ω) :
    Performed s operation (operation.perform s) := by
  cases operation with
  | transport operation =>
    refine .transport ?_
    rcases perform_transport operation s.toClient with same | unloads | ⟨request, context, -, made⟩
    · exact .inl same
    · exact .inr (.inl unloads)
    · refine .inr (.inr (Option.not_isSome_iff_eq_none.mp fun occupied => ?_))
      unfold Request.run at made
      rw [load_of_occupied occupied] at made
      cases made
  | bringUp loader path spec => exact s.performed_bringUp loader path spec
  | teardown place => exact s.performed_release rfl fun hardware t => hardware.teardown_slot t
  | drop place => exact s.performed_release rfl fun hardware t => ⟨(hardware.teardown_slot t).1, rfl⟩

theorem onward_perform [Memory ω] (operation : Operation ω) (s : Client ω) :
    Onward s.toPlatform (operation.perform s).toPlatform := by
  cases operation with
  | transport operation => exact Transport.onward_perform operation s.toClient
  | bringUp loader path spec => exact Hardware.advances_bringUp loader path spec s.toPlatform
  | teardown place =>
    exact s.onward_release place fun hardware => .bind hardware.advances_teardown fun _ => .pure _
  | drop place =>
    exact s.onward_release place fun hardware => .bind hardware.advances_drop fun _ => .pure _

namespace Performed

variable {s u : Client ω} {operation : Operation ω} {place : Nat}

/-- A context that is not torn down was there before and is not torn down now, or was just brought
up into an empty slot. -/
theorem live_cases (performed : Performed s operation u) (live : u.live place) :
    (s.live place ∧ operation.released? ≠ some place) ∨
      (place = s.place ∧ s.transport = none ∧ u.transport.isSome) := by
  unfold Client.live at live
  cases performed with
  | transport slot => exact .inl ⟨live, nofun⟩
  | refused slot => exact .inl ⟨live, nofun⟩
  | @broughtUp loader path spec t hardware loaded empty slot fit =>
    change ((s.hardware ++ [some hardware])[place]?.join.bind Hardware.command).isSome at live
    rw [Places.held_append] at live
    split at live
    · next last => exact .inr ⟨last, empty, by simp [slot]⟩
    · exact .inl ⟨live, nofun⟩
  | @absent _ other released vacant =>
    refine .inl ⟨live, fun same => ?_⟩
    rw [released] at same
    cases same
    simp [vacant] at live
  | @released _ other t hardware rest released held torn slot =>
    change ((s.hardware.set other rest)[place]?.join.bind Hardware.command).isSome at live
    rw [Places.held_set (Places.lt_of_held held)] at live
    split at live
    · simp [torn] at live
    · next differs =>
      refine .inl ⟨live, fun same => differs ?_⟩
      rw [released] at same
      exact (Option.some.inj same).symm

theorem place_le (performed : Performed s operation u) : s.place ≤ u.place := by
  cases performed with
  | transport slot => exact Nat.le_refl _
  | refused slot => exact Nat.le_refl _
  | broughtUp empty slot fit => simp [Client.place]
  | absent released vacant => exact Nat.le_refl _
  | released released held torn slot => simp [Client.place]

end Performed

theorem lt_of_live {s : Client ω} {place : Nat} (live : s.live place = true) :
    place < s.place := by
  obtain ⟨command, found⟩ := Option.isSome_iff_exists.mp live
  obtain ⟨hardware, held, -⟩ := Option.bind_eq_some_iff.mp found
  exact Places.lt_of_held held

end CryptoProvider.Command
