import CryptoProvider.Proofs.Command.History

/-!
Whose transport a teardown takes. The first teardown of a hardware context empties the transport
slot, whatever it holds by then; so it is the context's own transport that goes just if nobody took
it out before, by an unload or by another teardown.
-/

set_option autoImplicit false

namespace CryptoProvider.Command

open Ledger Transport

variable {ω : Type}

/-- Tearing down what is there empties the slot the first time, and otherwise leaves it. -/
theorem Performed.released_slot {s u : Client ω} {operation : Operation ω} {place : Nat}
    (performed : Performed s operation u) (released : operation.released? = some place) :
    u.transport = if s.live place then none else s.transport := by
  cases performed with
  | transport slot => cases released
  | refused slot => cases released
  | broughtUp empty slot fit => cases released
  | @absent _ other named vacant =>
    rw [named] at released
    cases released
    have dead : s.live place = false := by simp [Client.live, vacant]
    simp [dead]
  | @released _ other t hardware rest named held torn slot =>
    rw [named] at released
    cases released
    exact slot

theorem Performed.released_dead {s u : Client ω} {operation : Operation ω} {place : Nat}
    (performed : Performed s operation u) (released : operation.released? = some place) :
    u.live place = false := by
  by_contra alive
  rcases performed.live_cases (Bool.not_eq_false _ ▸ alive) with ⟨-, kept⟩ | ⟨-, empty, filled⟩
  · exact kept released
  · rw [performed.released_slot released, empty, ite_self] at filled
    cases filled

/-- An operation that takes a transport out of the slot: an explicit unload, or the first teardown of
a hardware context. -/
def Empties (s : Client ω) (operation : Operation ω) : Prop :=
  operation = .transport .unload ∨
    ∃ place, operation.released? = some place ∧ s.live place = true

theorem Empties.transport [Memory ω] {s : Client ω} {operation : Operation ω}
    (empties : Empties s operation) : (operation.perform s).transport = none := by
  rcases empties with rfl | ⟨place, released, live⟩
  · exact unload_transport s.toPlatform
  · rw [(performed s operation).released_slot released, if_pos live]

theorem Performed.kept {s u : Client ω} {operation : Operation ω}
    (performed : Performed s operation u) (keeps : ¬ Empties s operation)
    {loaded : Loaded ω} (filled : s.transport = some loaded) : u.transport = some loaded := by
  cases performed with
  | transport slot =>
    rcases slot with same | ⟨unloads, -⟩ | empty
    · exact same.trans filled
    · exact absurd (.inl (congrArg _ unloads)) keeps
    · rw [empty] at filled
      cases filled
  | refused slot => exact slot.trans filled
  | broughtUp empty slot fit =>
    rw [empty] at filled
    cases filled
  | absent released vacant => exact filled
  | @released _ place t hardware rest released held torn slot =>
    refine slot.trans ((if_neg fun live => keeps ?_).trans filled)
    exact .inr ⟨place, released, live⟩

/-- Nothing was taken out of the slot by any of the operations. -/
def Undisturbed [Memory ω] (s : Client ω) (operations : List (Operation ω)) : Prop :=
  Throughout Operation.perform (fun s operation => ¬ Empties s operation) s operations

theorem undisturbed_snoc [Memory ω] {s : Client ω} {operations : List (Operation ω)}
    {last : Operation ω} :
    Undisturbed s (operations ++ [last]) ↔
      Undisturbed s operations ∧ ¬ Empties (after operations s) last :=
  throughout_snoc operations last

/-- A transport stays in the slot until it is taken out, and then never comes back. -/
theorem slot_after [Memory ω] {s : Client ω} {loaded : Loaded ω}
    (filled : s.transport = some loaded)
    (issued : loaded.module < s.next) (operations : List (Operation ω)) :
    loaded.module < (after operations s).next ∧
      ((Undisturbed s operations ∧ (after operations s).transport = some loaded) ∨
        (¬ Undisturbed s operations ∧
          (after operations s).transport.map Loaded.module ≠ some loaded.module)) := by
  induction operations using List.reverseRecOn with
  | nil => exact ⟨issued, .inl ⟨trivial, filled⟩⟩
  | append_singleton operations last ih =>
    obtain ⟨known, state⟩ := ih
    have onward := onward_perform last (after operations s)
    rw [after_snoc, undisturbed_snoc]
    constructor
    · exact Nat.lt_of_lt_of_le known onward.next
    · rcases state with ⟨undisturbed, there⟩ | ⟨disturbed, gone⟩
      · by_cases empties : Empties (after operations s) last
        · refine .inr ⟨fun both => both.2 empties, ?_⟩
          rw [empties.transport]
          exact nofun
        · exact .inl ⟨⟨undisturbed, empties⟩, (performed _ last).kept empties there⟩
      · exact .inr ⟨fun both => disturbed both.1, onward.lost known gone⟩

/-- What a bring-up that is granted puts into the slot, under a number of its own. -/
theorem bringUp_granted [Memory ω] {s : Client ω} {loader : ModuleLoader ω} {path : String}
    {spec : Spec} {hardware : Hardware ω}
    (granted : (Hardware.bringUp loader path spec s.toPlatform).1 = .ok hardware) :
    ∃ loaded, (s.bringUp loader path spec).transport = some loaded ∧
      loaded.module < (s.bringUp loader path spec).next ∧
      (s.bringUp loader path spec).live s.place = true := by
  have built := Hardware.told_bringUp loader path spec s.toPlatform ⟨rfl, rfl⟩
  have onward := Hardware.advances_bringUp loader path spec s.toPlatform
  rw [granted] at built
  obtain ⟨empty, ⟨command, transport, hasCommand, -⟩, loaded, slots⟩ := built
  have vacant : s.transport = none := empty
  have filled : (s.bringUp loader path spec).transport = some loaded := transport_of_slots slots
  refine ⟨loaded, filled, ?_, ?_⟩
  · rcases onward.slot loaded filled with older | ⟨-, issued⟩
    · rw [vacant] at older
      cases older
    · exact issued
  · unfold Client.live Client.hardware? Client.bringUp
    rw [granted]
    change ((s.hardware ++ [some hardware])[s.place]?.join.bind Hardware.command).isSome = true
    rw [Places.held_append]
    simp [Client.place, hasCommand]

/-- One hardware context at most is not torn down, and while one is not the slot is filled. -/
structure Sole (s : Client ω) : Prop where
  one : ∀ place other, s.live place = true → s.live other = true → place = other
  filled : ∀ place, s.live place = true → s.transport.isSome

namespace Sole

variable {s u : Client ω} {operation : Operation ω} {place : Nat}

theorem keeps (sole : Sole s) (kept : operation ≠ .transport .unload) (live : s.live place = true)
    (unreleased : operation.released? ≠ some place) : ¬ Empties s operation := by
  rintro (unloads | ⟨other, released, alive⟩)
  · exact kept unloads
  · rw [sole.one other place alive live] at released
    exact unreleased released

theorem perform (sole : Sole s) (performed : Performed s operation u)
    (kept : operation ≠ .transport .unload) : Sole u := by
  -- A bring-up finds the slot empty, and then no context is left that was not torn down.
  have alone : ∀ {place}, s.live place = true → s.transport ≠ none := by
    intro place live empty
    have filled := sole.filled place live
    simp [empty] at filled
  constructor
  · intro place other first second
    rcases performed.live_cases first with ⟨old, -⟩ | ⟨new, empty, -⟩
    · rcases performed.live_cases second with ⟨older, -⟩ | ⟨-, empty, -⟩
      · exact sole.one place other old older
      · exact absurd empty (alone old)
    · rcases performed.live_cases second with ⟨older, -⟩ | ⟨newer, -, -⟩
      · exact absurd empty (alone older)
      · exact new.trans newer.symm
  · intro place live
    rcases performed.live_cases live with ⟨old, unreleased⟩ | ⟨-, -, filled⟩
    · obtain ⟨loaded, there⟩ := Option.isSome_iff_exists.mp (sole.filled place old)
      simp [performed.kept (sole.keeps kept old unreleased) there]
    · exact filled

theorem after [Memory ω] (sole : Sole s) {operations : List (Operation ω)}
    (kept : .transport .unload ∉ operations) : Sole (Command.after operations s) := by
  induction operations generalizing s with
  | nil => exact sole
  | cons operation rest ih =>
    rw [List.mem_cons, not_or] at kept
    exact ih (sole.perform (performed s operation) (Ne.symm kept.1)) kept.2

-- The transport of a context stays in the slot while the context is not torn down.
theorem slot [Memory ω] (sole : Sole s) {loaded : Loaded ω} (early : place < s.place)
    (filled : s.live place = true → s.transport = some loaded) {operations : List (Operation ω)}
    (kept : .transport .unload ∉ operations)
    (live : (Command.after operations s).live place = true) :
    (Command.after operations s).transport = some loaded := by
  induction operations generalizing s with
  | nil => exact filled live
  | cons operation rest ih =>
    rw [List.mem_cons, not_or] at kept
    have step := performed s operation
    refine ih (sole.perform step (Ne.symm kept.1)) (Nat.lt_of_lt_of_le early step.place_le) ?_
      kept.2 live
    intro alive
    rcases step.live_cases alive with ⟨old, unreleased⟩ | ⟨new, -⟩
    · exact step.kept (sole.keeps (Ne.symm kept.1) old unreleased) (filled old)
    · exact absurd new (Nat.ne_of_lt early)

end Sole

/-- Whatever is loaded, unloaded, brought up and torn down: the first teardown of a hardware context
empties the slot, whoever loaded what it holds, and a teardown repeated leaves it. The slot still
holds the transport that a context loaded just if there was no unload and no first teardown since;
without any explicit unload it does for as long as the context is not torn down. -/
theorem teardown_takes_what_is_loaded [Memory ω] (s : Client ω) (untouched : s.hardware = [])
    (operations : List (Operation ω)) :
    (∀ last place, last.released? = some place →
      (after (operations ++ [last]) s).transport =
        (if (after operations s).live place then none else (after operations s).transport) ∧
      (after (operations ++ [last]) s).live place = false) ∧
    (∀ earlier loader path spec hardware later,
      operations = earlier ++ .bringUp loader path spec :: later →
      (Hardware.bringUp loader path spec (after earlier s).toPlatform).1 = .ok hardware →
      ∃ loaded, (after (earlier ++ [.bringUp loader path spec]) s).transport = some loaded ∧
        ((after operations s).transport.map Loaded.module = some loaded.module ↔
          Undisturbed (after (earlier ++ [.bringUp loader path spec]) s) later) ∧
        (.transport .unload ∉ operations →
          (after operations s).live (after earlier s).place = true →
          (after operations s).transport = some loaded)) := by
  constructor
  · intro last place released
    rw [after_snoc]
    have step := performed (after operations s) last
    exact ⟨step.released_slot released, step.released_dead released⟩
  · rintro earlier loader path spec hardware later rfl granted
    obtain ⟨loaded, filled, issued, live⟩ := bringUp_granted granted
    have split : after (earlier ++ .bringUp loader path spec :: later) s =
        after later ((after earlier s).bringUp loader path spec) := after_append _ _ _
    have first : after (earlier ++ [.bringUp loader path spec]) s =
        (after earlier s).bringUp loader path spec := after_snoc _ _ _
    rw [split, first]
    refine ⟨loaded, filled, ?_, fun kept alive => ?_⟩
    · obtain ⟨-, ⟨undisturbed, there⟩ | ⟨disturbed, gone⟩⟩ := slot_after filled issued later
      · simp [there, undisturbed]
      · simp [gone, disturbed]
    · rw [List.mem_append, List.mem_cons, not_or, not_or] at kept
      have start : Sole s := by
        constructor
        · simp [Client.live, Client.hardware?, untouched]
        · simp [Client.live, Client.hardware?, untouched]
      have before := start.after kept.1
      have sole := before.perform (performed _ (.bringUp loader path spec)) (by simp)
      exact sole.slot (lt_of_live live) (fun _ => filled) kept.2.2 alive

/-- A process in which nothing was done, with hardware that comes up whenever the slot is empty. -/
def Client.clean : Client Unit :=
  ⟨⟨Platform.clean (), []⟩, []⟩

def Operation.willing : Operation Unit :=
  .bringUp (Answering.loader 0 0) "commands" ⟨"plain", none⟩

theorem teardown_takes_what_is_loaded_willing :
    Client.clean.hardware = [] ∧ (.teardown 0 : Operation Unit).released? = some 0 ∧
      (after ([.willing, .teardown 0, .willing] ++ [.teardown 0]) Client.clean).transport =
        (after [.willing, .teardown 0, .willing] Client.clean).transport ∧
      ∃ loaded, (after [.willing] Client.clean).transport = some loaded ∧
        (after [.willing, .transport .describe] Client.clean).transport = some loaded := by
  refine ⟨rfl, rfl, ?_, ?_⟩
  · have taken := (teardown_takes_what_is_loaded Client.clean rfl
      [.willing, .teardown 0, .willing]).1 (.teardown 0) 0 rfl
    have dead : (after [.willing, .teardown 0, .willing] Client.clean).live 0 = false := by
      decide +kernel
    rw [taken.1, dead]
    rfl
  · obtain ⟨loaded, first, -, held⟩ := (teardown_takes_what_is_loaded Client.clean rfl
      [.willing, .transport .describe]).2 [] _ _ _ _ [.transport .describe] rfl rfl
    refine ⟨loaded, first, held ?_ ?_⟩
    · simp [Operation.willing]
    · decide +kernel

-- After an explicit unload another context comes up; tearing the older one down leaves the newer
-- without the transport it loaded.
theorem teardown_takes_a_newer_transport :
    (after [.willing, .transport .unload, .willing] Client.clean).live 1 = true ∧
      (after [.willing, .transport .unload, .willing] Client.clean).transport.isSome ∧
      (after [.willing, .transport .unload, .willing] Client.clean).transport.map Loaded.module ≠
        (after [.willing] Client.clean).transport.map Loaded.module ∧
      (after [.willing, .transport .unload, .willing, .teardown 0] Client.clean).transport.isSome =
        false ∧
      (after [.willing, .transport .unload, .willing, .teardown 0] Client.clean).live 1 = true := by
  decide +kernel

end CryptoProvider.Command
