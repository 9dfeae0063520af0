import CryptoProvider.Command.Hardware
import CryptoProvider.Proofs.Ledger.Accounts
import CryptoProvider.Proofs.Memory

/-!
Modules, transport contexts and command contexts in the accounts. Bringing a hardware context up
adds all of its parts and fills the transport slot, or adds nothing and leaves the slot empty;
dropping it takes the parts out and empties the slot.
-/

set_option autoImplicit false

namespace CryptoProvider

open Ledger

variable {ω : Type} {rest : List Entry} {contents : Slots ω}

namespace OpenModule

def entry (opened : OpenModule ω) : Entry :=
  (opened.number, .moduleOpen opened.path)

theorem books_open? (loader : ModuleLoader ω) (path : String) :
    Ensures (Books rest contents) (open? loader path) fun opened? s =>
      match opened? with
      | none => Books rest contents s
      | some opened => Books (opened.entry :: rest) contents s := by
  unfold open?
  refine Ensures.bind Books.consult fun found? => ?_
  cases found? with
  | none =>
    refine Ensures.bind (Books.record_none rfl) fun _ => ?_
    exact Ensures.pure fun _ books => books
  | some found =>
    refine Ensures.bind Books.fresh fun number => ?_
    refine Ensures.bind (Books.record_one (Leads.open_module path) rfl) fun _ => ?_
    exact Ensures.pure fun _ books => books

theorem books_close (opened : OpenModule ω) :
    Ensures (Books (opened.entry :: rest) contents) opened.close fun _ => Books rest contents :=
  Ensures.weaken (Books.record_one (Leads.close_module opened.path) rfl) fun _ _ books =>
    books.discharge

end OpenModule

theorem Buffer.books_allocate [Memory ω] (size : Nat) :
    Ensures (Books rest contents) (allocate size) fun _ => Books rest contents :=
  Ensures.bind Books.consult fun _ => Ensures.pure fun _ books => books

namespace Transport

namespace Context

def entry (context : Context ω) : Entry :=
  (context.number, .contextStarted context.plugin)

theorem books_querySize (opened : OpenModule ω) (plugin : TransportPlugin ω)
    (start : StartRoutine ω) (name : String) (config : Option String) :
    Ensures (Books (opened.entry :: rest) contents) (querySize opened plugin start name config)
      fun _ => Books (opened.entry :: rest) contents := by
  unfold querySize
  refine Ensures.bind Books.consult fun reply => ?_
  refine Ensures.bind (Books.record_one (Leads.probe (by simp [probesModule])) rfl) fun _ => ?_
  split
  · refine Ensures.bind Books.note fun _ => ?_
    exact Ensures.pure fun _ books => books
  · exact Ensures.pure fun _ books => books

-- A start routine fills a context and with it keeps its module, or it has only probed the module.
theorem books_start (opened : OpenModule ω) (plugin : String) (number : Nat)
    (config : Option String) (size : Nat) (zeroed : Bool) (status : Nat) :
    Ensures (Books ((number, .unused) :: opened.entry :: rest) contents)
      (Platform.record opened.reported
        (.transportStart opened.number plugin number config size zeroed status))
      fun _ =>
        if status = 0 then Books ((number, .contextStarted plugin) :: rest) contents
        else Books (opened.entry :: rest) contents := by
  -- One call is about two things: it ends what is asked of the module and begins the life of the
  -- context, or leaves the module open and ends the context at once.
  refine Ensures.strengthen ?_ fun _ books => books.perm (List.Perm.swap _ _ _)
  split
  case isTrue started =>
    subst started
    exact Ensures.weaken (Books.record_two Leads.keep_module Leads.start_context rfl)
      fun _ _ books => books.discharge
  case isFalse refused =>
    have probes : Leads opened.number
        (.transportStart opened.number plugin number config size zeroed status)
        (.moduleOpen opened.path) (.moduleOpen opened.path) :=
      Leads.probe (by simp [probesModule, refused])
    exact Ensures.weaken (Books.record_two probes (Leads.refuse_context refused) rfl)
      fun _ _ books => (books.perm (List.Perm.swap _ _ _)).discharge

theorem books_fill [Memory ω] (opened : OpenModule ω) (plugin : TransportPlugin ω)
    (start : StartRoutine ω) (name : String) (config : Option String) (size : Nat) :
    Ensures (Books (opened.entry :: rest) contents) (fill opened plugin start name config size)
      fun filled s =>
        match filled with
        | .ok context => context.finalized = false ∧ Books (context.entry :: rest) contents s
        | .error _ => Books (opened.entry :: rest) contents s := by
  unfold fill
  refine Ensures.bind (Buffer.books_allocate size) fun allocated => ?_
  cases allocated with
  | error cause => exact Ensures.pure fun _ books => books
  | ok buffer =>
    refine Ensures.bind Books.fresh fun number => ?_
    refine Ensures.bind Books.consult fun reply => ?_
    refine Ensures.bind (books_start opened plugin.label number config size _ reply.status)
      fun _ => ?_
    by_cases started : reply.status = 0
    · simp only [started, if_true, ne_eq, not_true, if_false]
      exact Ensures.pure fun _ books => ⟨rfl, books⟩
    · simp only [started, if_false, ne_eq, not_false_iff, if_true]
      refine Ensures.bind Books.note fun _ => ?_
      exact Ensures.pure fun _ books => books

-- Whether or not a finalizer runs, a context is let go.
theorem books_finalize (context : Context ω) :
    Ensures (Books (context.entry :: rest) contents) context.finalize fun _ =>
      Books rest contents := by
  -- A context may be left without its finalizer, so both ways out discharge it.
  have left : ∀ s, Books (context.entry :: rest) contents s → Books rest contents s :=
    fun _ books => (books.revise fun _ => Phase.settled_of_contextStarted).discharge
  rw [finalize_eq]
  split
  · exact Ensures.pure left
  · cases context.finalizer? with
    | none => exact Ensures.pure left
    | some finalizer =>
      refine Ensures.bind Books.get fun state => Ensures.given fun _ => ?_
      refine Ensures.bind (Books.record_one Leads.finalize_context rfl) fun _ => ?_
      refine Ensures.bind Books.consult fun _ => ?_
      exact Ensures.pure fun _ books => books.discharge

end Context

theorem books_openConventional (loader : ModuleLoader ω) (name : String) :
    Ensures (Books rest contents) (openConventional loader name) fun opened? s =>
      match opened? with
      | none => Books rest contents s
      | some opened => Books (opened.entry :: rest) contents s := by
  unfold openConventional
  cases libraryName? name with
  | none =>
    refine Ensures.bind Books.note fun _ => ?_
    exact Ensures.pure fun _ books => books
  | some path => exact OpenModule.books_open? loader path

theorem books_locate (loader : ModuleLoader ω) (name : String) :
    Ensures (Books rest contents) (locate loader name) fun opened? s =>
      match opened? with
      | none => Books rest contents s
      | some opened => Books (opened.entry :: rest) contents s := by
  unfold locate
  refine Ensures.bind (OpenModule.books_open? loader name) fun opened? => ?_
  cases opened? with
  | none => exact books_openConventional loader name
  | some opened => exact Ensures.pure fun _ books => books

theorem books_start [Memory ω] (opened : OpenModule ω) (name : String) (config : Option String) :
    Ensures (Books (opened.entry :: rest) contents) (start opened name config) fun started s =>
      match started with
      | .ok (_, context) => context.finalized = false ∧ Books (context.entry :: rest) contents s
      | .error _ => Books (opened.entry :: rest) contents s := by
  unfold start
  cases opened.exports.transport with
  | none =>
    refine Ensures.bind Books.note fun _ => ?_
    exact Ensures.pure fun _ books => books
  | some plugin =>
    refine Ensures.bind Books.consult fun info? => ?_
    have probes : Leads opened.number (.transportInfo opened.number plugin.label)
        (.moduleOpen opened.path) (.moduleOpen opened.path) :=
      Leads.probe (by simp [probesModule])
    refine Ensures.bind (Books.record_one probes rfl) fun _ => ?_
    cases info? with
    | none => exact Ensures.pure fun _ books => books
    | some info =>
      simp only [Platform.peek_eq, pure_bind]
      cases info.value.start with
      | none => exact Ensures.pure fun _ books => books
      | some routine =>
        refine Ensures.bind (Context.books_querySize opened plugin routine name config)
          fun size => ?_
        cases size with
        | error cause => exact Ensures.pure fun _ books => books
        | ok size =>
          refine Ensures.bind (Context.books_fill opened plugin routine name config size)
            fun filled => ?_
          cases filled with
          | error cause => exact Ensures.pure fun _ books => books
          | ok context => exact Ensures.pure fun _ books => books

-- A load fills the empty slot and adds a context, or changes neither slot nor books.
theorem books_load [Memory ω] (loader : ModuleLoader ω) (name : String) (config : Option String) :
    Ensures (Books rest contents) (load loader name config) fun loaded s =>
      match loaded with
      | .ok context =>
        (contents.transport = none ∧ context.finalized = false) ∧
          ∃ filling, Books (context.entry :: rest) { contents with transport := some filling } s
      | .error _ => Books rest contents s := by
  unfold load
  refine Ensures.bind Books.get fun state => ?_
  refine Ensures.given fun known => ?_
  rw [transport_of_slots known]
  cases empty : contents.transport with
  | some loaded =>
    refine Ensures.bind Books.note fun _ => ?_
    exact Ensures.pure fun _ books => books
  | none =>
    refine Ensures.bind (books_locate loader name) fun opened? => ?_
    cases opened? with
    | none =>
      refine Ensures.bind Books.note fun _ => ?_
      exact Ensures.pure fun _ books => books
    | some opened =>
      refine Ensures.bind (books_start opened name config) fun started => ?_
      cases started with
      | error cause =>
        refine Ensures.bind (OpenModule.books_close opened) fun _ => ?_
        exact Ensures.pure fun _ books => books
      | ok started =>
        refine Ensures.given fun unfinished => ?_
        refine Ensures.bind Books.setTransport fun _ => ?_
        exact Ensures.pure fun _ books => ⟨⟨rfl, unfinished⟩, _, books⟩

theorem books_unload :
    Ensures (Books rest contents) unload fun _ =>
      Books rest { contents with transport := none } := by
  unfold unload
  refine Ensures.bind Books.get fun state => ?_
  refine Ensures.given fun known => ?_
  rw [transport_of_slots known]
  cases empty : contents.transport with
  | some loaded => exact Books.setTransport
  | none =>
    rw [Slots.emptyTransport empty]
    exact Ensures.pure fun _ books => books

end Transport

def CommandContext.entry (command : CommandContext) : Entry :=
  (command.number, .commandStarted)

namespace Command

theorem Library.opened_of_resolve? {opened : OpenModule ω} {library : Library ω}
    (resolved : resolve? opened = some library) : library.opened = opened := by
  simp only [resolve?, Option.bind_eq_bind, Option.pure_def, Option.bind_eq_some_iff,
    Option.some.injEq] at resolved
  obtain ⟨_, _, _, _, _, _, _, _, rfl⟩ := resolved
  rfl

theorem Library.books_openAt (loader : ModuleLoader ω) (path : String) :
    Ensures (Books rest contents) (openAt loader path) fun opened s =>
      match opened with
      | .ok library => Books (library.opened.entry :: rest) contents s
      | .error _ => Books rest contents s := by
  unfold openAt
  refine Ensures.bind (OpenModule.books_open? loader path) fun opened? => ?_
  cases opened? with
  | none => exact Ensures.pure fun _ books => books
  | some opened =>
    dsimp only
    cases resolved : resolve? opened with
    | some library =>
      refine Ensures.pure fun s books => ?_
      change Books (library.opened.entry :: rest) contents s
      rw [opened_of_resolve? resolved]
      exact books
    | none =>
      refine Ensures.bind Books.note fun _ => ?_
      refine Ensures.bind (OpenModule.books_close opened) fun _ => ?_
      exact Ensures.pure fun _ books => books

namespace Hardware

def entries (hardware : Hardware ω) : List Entry :=
  hardware.command.toList.map CommandContext.entry ++
    (hardware.transport.toList.map Transport.Context.entry ++ [hardware.library.opened.entry])

/-- A hardware context that was not torn down has both its contexts. -/
def Whole (hardware : Hardware ω) : Prop :=
  ∃ command transport, hardware.command = some command ∧ hardware.transport = some transport ∧
    transport.finalized = false

theorem books_bind [Memory ω] (library : Library ω) (transport : Transport.Context ω) :
    Ensures (Books rest contents) (bind library transport) fun bound s =>
      match bound with
      | .ok command => Books (command.entry :: rest) contents s
      | .error _ => Books rest contents s := by
  unfold bind
  refine Ensures.bind Books.consult fun size => ?_
  refine Ensures.bind (Books.record_none rfl) fun _ => ?_
  refine Ensures.bind (Buffer.books_allocate size) fun allocated => ?_
  cases allocated with
  | error cause =>
    refine Ensures.bind Books.note fun _ => ?_
    exact Ensures.pure fun _ books => books
  | ok buffer =>
    refine Ensures.bind Books.fresh fun number => ?_
    refine Ensures.bind Books.consult fun status => ?_
    by_cases started : status = 0
    · subst started
      refine Ensures.bind (Books.record_one Leads.start_command rfl) fun _ => ?_
      exact Ensures.pure fun _ books => books
    · refine Ensures.bind (Books.record_one (Leads.refuse_command started) rfl) fun _ => ?_
      simp only [started, ne_eq, not_false_iff, if_true]
      refine Ensures.bind Books.note fun _ => ?_
      exact Ensures.pure fun _ books => books.discharge

-- Either all parts of a hardware context come up, or none stays.
theorem books_bringUp [Memory ω] (loader : ModuleLoader ω) (libraryPath : String)
    (spec : Transport.Spec) :
    Ensures (Books rest contents) (bringUp loader libraryPath spec) fun broughtUp s =>
      match broughtUp with
      | .ok hardware =>
        (contents.transport = none ∧ hardware.Whole) ∧
          ∃ filling, Books (hardware.entries ++ rest) { contents with transport := some filling } s
      | .error _ => Books rest contents s := by
  unfold bringUp
  refine Ensures.bind (Library.books_openAt loader libraryPath) fun library => ?_
  cases library with
  | error cause => exact Ensures.pure fun _ books => books
  | ok library =>
    refine Ensures.bind (Transport.books_load loader spec.name spec.config) fun loaded => ?_
    cases loaded with
    | error cause =>
      refine Ensures.bind (OpenModule.books_close library.opened) fun _ => ?_
      exact Ensures.pure fun _ books => books
    | ok transport =>
      refine Ensures.given fun ⟨empty, unfinished⟩ => ?_
      refine Ensures.exists_intro fun filling => ?_
      refine Ensures.bind (books_bind library transport) fun bound => ?_
      cases bound with
      | error cause =>
        -- The way back: the context, the slot, and the library, each taken once.
        refine Ensures.bind (Transport.Context.books_finalize transport) fun _ => ?_
        refine Ensures.bind Transport.books_unload fun _ => ?_
        refine Ensures.bind (OpenModule.books_close library.opened) fun _ => ?_
        rw [Slots.emptyTransport empty]
        exact Ensures.pure fun _ books => books
      | ok command =>
        refine Ensures.bind Books.note fun _ => ?_
        exact Ensures.pure fun _ books =>
          ⟨⟨empty, command, transport, rfl, rfl, unfinished⟩, filling, books⟩

theorem books_nestedTransport (library : Library ω) (command : CommandContext) :
    Ensures (Books (command.entry :: rest) contents) (nestedTransport library command) fun _ =>
      Books ((command.number, .commandLookedUp) :: rest) contents := by
  unfold nestedTransport
  refine Ensures.bind Books.consult fun ⟨status, nested⟩ => ?_
  refine Ensures.bind (Books.record_one Leads.look_up rfl) fun _ => ?_
  split
  · refine Ensures.bind Books.note fun _ => ?_
    exact Ensures.pure fun _ books => books
  · exact Ensures.pure fun _ books => books

theorem books_releaseTransport (transport : Transport.Context ω) (nested : Option Nat) :
    Ensures (Books (transport.entry :: rest) contents) (releaseTransport transport nested)
      fun _ => Books rest contents := by
  unfold releaseTransport
  cases nested with
  | none =>
    exact Ensures.weaken Books.note fun _ _ books =>
      (books.revise fun _ => Phase.settled_of_contextStarted).discharge
  | some number =>
    dsimp only
    split
    · refine Ensures.bind Books.note fun _ => ?_
      refine Ensures.bind (Transport.Context.books_finalize transport) fun _ => ?_
      exact Ensures.pure fun _ books => books
    · refine Ensures.bind (Transport.Context.books_finalize transport) fun _ => ?_
      exact Ensures.pure fun _ books => books

theorem books_teardown {hardware : Hardware ω} (whole : hardware.Whole) :
    Ensures (Books (hardware.entries ++ rest) contents) hardware.teardown fun after s =>
      after.library = hardware.library ∧
        Books (hardware.library.opened.entry :: rest) { contents with transport := none } s := by
  obtain ⟨command, transport, hasCommand, hasTransport, _⟩ := whole
  unfold teardown
  simp only [entries, hasCommand, hasTransport]
  refine Ensures.bind (books_nestedTransport hardware.library command) fun nested => ?_
  refine Ensures.bind (Books.record_one Leads.finalize_command rfl) fun _ => ?_
  refine Ensures.bind Books.consult fun _ => ?_
  refine Ensures.strengthen ?_ fun _ books => books.discharge
  refine Ensures.bind (books_releaseTransport transport nested) fun _ => ?_
  refine Ensures.bind Transport.books_unload fun _ => ?_
  exact Ensures.pure fun _ books => ⟨rfl, books⟩

theorem books_drop {hardware : Hardware ω} (whole : hardware.Whole) :
    Ensures (Books (hardware.entries ++ rest) contents) hardware.drop fun _ =>
      Books rest { contents with transport := none } := by
  unfold drop
  refine Ensures.bind (books_teardown whole) fun after => ?_
  refine Ensures.given fun same => ?_
  rw [same]
  exact OpenModule.books_close hardware.library.opened

end Hardware

end Command

end CryptoProvider
