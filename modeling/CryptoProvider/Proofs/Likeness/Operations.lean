import CryptoProvider.Command.Hardware
import CryptoProvider.Compliance
import CryptoProvider.Engine.HardwareRandom
import CryptoProvider.Engine.Suite
import CryptoProvider.Locking.Bridge
import CryptoProvider.Proofs.Likeness.Platform

/-!
The operations of the subsystems do the same on platforms that are alike. Each is a sequence of
calls, answers and changes of the shared slots, and none of them looks at what was noticed.
-/

set_option autoImplicit false

namespace CryptoProvider

open Platform

variable {ω : Type}

namespace OpenModule

theorem oblivious_open? (loader : ModuleLoader ω) (path : String) :
    Oblivious Alike (open? loader path) := by
  unfold open?
  apply Oblivious.bind (oblivious_consult _)
  intro found
  cases found with
  | none => exact .bind (oblivious_record _ _) fun _ => .pure _
  | some exports =>
    apply Oblivious.bind oblivious_fresh
    exact fun _ => .bind (oblivious_record _ _) fun _ => .pure _

theorem oblivious_close (opened : OpenModule ω) : Oblivious Alike opened.close :=
  oblivious_record _ _

end OpenModule

namespace Engine

namespace Handle

theorem oblivious_find (api : EngineApi ω) (id : String) : Oblivious Alike (find api id) := by
  unfold find
  apply Oblivious.bind (oblivious_consult _)
  intro found
  cases found with
  | false =>
    apply Oblivious.bind (oblivious_record _ _)
    exact fun _ => .bind (oblivious_note _) fun _ => .pure _
  | true =>
    apply Oblivious.bind oblivious_fresh
    exact fun _ => .bind (oblivious_record _ _) fun _ => .pure _

variable (handle : Handle ω)

theorem oblivious_free :
    Oblivious Alike (do
      Platform.record handle.api.reported (.engineFree handle.engine)
      Platform.consult (handle.api.free handle.engine)) :=
  .bind (oblivious_record _ _) fun _ => oblivious_consult _

theorem oblivious_drop : Oblivious Alike handle.drop := by
  unfold drop
  split
  · apply Oblivious.bind (oblivious_record _ _)
    exact fun _ => .bind (oblivious_consult _) fun _ => handle.oblivious_free
  · exact handle.oblivious_free

theorem oblivious_stepFailed (step : Step) : Oblivious Alike (handle.stepFailed step) :=
  .bind (oblivious_note _) fun _ => .pure _

theorem oblivious_start : Oblivious Alike handle.start := by
  unfold start
  apply Oblivious.bind (oblivious_consult _)
  intro done
  apply Oblivious.bind (oblivious_record _ _)
  intro _
  cases done with
  | true => exact .pure _
  | false => exact .bind (handle.oblivious_stepFailed _) fun _ => .pure _

theorem oblivious_setDefault (methods : Nat) : Oblivious Alike (handle.setDefault methods) :=
  .bind (oblivious_record _ _) fun _ => oblivious_consult _

theorem oblivious_digest? (algorithm : Int) : Oblivious Alike (handle.digest? algorithm) :=
  .bind (oblivious_record _ _) fun _ => oblivious_consult _

theorem oblivious_registerKeys : Oblivious Alike handle.registerKeys :=
  .bind (oblivious_record _ _) fun _ => oblivious_consult _

theorem oblivious_control (command : Option (String × String)) :
    Oblivious Alike (handle.control command) := by
  cases command with
  | none => exact .pure _
  | some command => exact .bind (oblivious_record _ _) fun _ => oblivious_consult _

-- What was found is given back before an attempt fails.
theorem oblivious_giveBack {α : Type} (cause : Error) :
    Oblivious Alike (do
      handle.drop
      return (.error cause : Except Error α)) :=
  .bind handle.oblivious_drop fun _ => .pure _

end Handle

namespace HardwareRandom

theorem oblivious_attach (api : EngineApi ω) : Oblivious Alike (attach api) := by
  unfold attach
  apply Oblivious.bind (oblivious_record _ _)
  intro _
  apply Oblivious.bind (oblivious_consult _)
  intro _
  apply Oblivious.bind (Handle.oblivious_find api _)
  intro found
  cases found with
  | error cause => exact .pure _
  | ok found =>
    apply Oblivious.bind found.oblivious_start
    intro started
    cases started with
    | error cause => exact found.oblivious_giveBack cause
    | ok handle =>
      apply Oblivious.bind (handle.oblivious_setDefault _)
      intro agreed
      cases agreed with
      | true => exact .bind (oblivious_note _) fun _ => .pure _
      | false =>
        exact .bind (handle.oblivious_stepFailed _) fun cause => handle.oblivious_giveBack cause

end HardwareRandom

namespace Suite

theorem oblivious_configure (handle : Handle ω) (config : SuiteConfig) :
    Oblivious Alike (configure handle config) := by
  unfold configure
  apply Oblivious.bind (handle.oblivious_digest? _)
  intro found
  cases found with
  | none => exact .bind (handle.oblivious_stepFailed _) fun _ => .pure _
  | some digest =>
    apply Oblivious.bind handle.oblivious_registerKeys
    intro registered
    cases registered with
    | false => exact .bind (handle.oblivious_stepFailed _) fun _ => .pure _
    | true =>
      apply Oblivious.bind (handle.oblivious_control _)
      intro agreed
      cases agreed with
      | false => exact .bind (handle.oblivious_stepFailed _) fun _ => .pure _
      | true => exact .pure _

theorem oblivious_attach (api : EngineApi ω) (config : SuiteConfig) :
    Oblivious Alike (attach api config) := by
  unfold attach
  apply Oblivious.bind (oblivious_record _ _)
  intro _
  apply Oblivious.bind (oblivious_consult _)
  intro _
  apply Oblivious.bind (Handle.oblivious_find api _)
  intro found
  cases found with
  | error cause => exact .pure _
  | ok found =>
    apply Oblivious.bind found.oblivious_start
    intro started
    cases started with
    | error cause => exact found.oblivious_giveBack cause
    | ok handle =>
      apply Oblivious.bind (oblivious_configure handle config)
      intro configured
      cases configured with
      | error cause => exact handle.oblivious_giveBack cause
      | ok suite => exact .bind (oblivious_note _) fun _ => .pure _

theorem oblivious_requestKey (suite : Suite ω) (algorithm : Int)
    (parameters : List (String × String)) :
    Oblivious Alike (suite.requestKey algorithm parameters) :=
  .bind (oblivious_record _ _) fun _ => oblivious_consult _

end Suite

end Engine

theorem Compliance.oblivious_enter (mode : ComplianceModule ω) :
    Oblivious Alike (Compliance.enter mode) := by
  unfold Compliance.enter
  apply Oblivious.bind (oblivious_consult _)
  intro enabled
  apply Oblivious.bind (oblivious_record _ _)
  intro _
  cases enabled with
  | true =>
    apply Oblivious.bind (oblivious_record _ _)
    exact fun _ => .bind (oblivious_consult _) fun _ => .pure _
  | false =>
    apply Oblivious.bind (oblivious_consult _)
    intro done
    apply Oblivious.bind (oblivious_record _ _)
    intro _
    cases done with
    | true => exact .bind (oblivious_note _) fun _ => .pure _
    | false => exact .bind (oblivious_note _) fun _ => .pure _

theorem Buffer.oblivious_allocate [Memory ω] (size : Nat) :
    Oblivious (Alike (ω := ω)) (Buffer.allocate size) :=
  .bind (oblivious_consult _) fun _ => .pure _

namespace Transport

namespace Context

-- A finalizer is told whether the slot is full, so this looks at the slots.
theorem oblivious_finalize (context : Context ω) : Oblivious Alike context.finalize := by
  rw [finalize_eq]
  split
  · exact .pure _
  · split
    · exact .pure _
    · apply Oblivious.read
      · intro s t alike
        rw [alike.transport]
      · intro s
        apply Oblivious.bind (oblivious_record _ _)
        exact fun _ => .bind (oblivious_consult _) fun _ => .pure _

theorem oblivious_querySize (opened : OpenModule ω) (plugin : TransportPlugin ω)
    (start : StartRoutine ω) (name : String) (config : Option String) :
    Oblivious Alike (querySize opened plugin start name config) := by
  unfold querySize
  apply Oblivious.bind (oblivious_consult _)
  intro reply
  apply Oblivious.bind (oblivious_record _ _)
  intro _
  split
  · exact .bind (oblivious_note _) fun _ => .pure _
  · exact .pure _

theorem oblivious_fill [Memory ω] (opened : OpenModule ω) (plugin : TransportPlugin ω)
    (start : StartRoutine ω) (name : String) (config : Option String) (size : Nat) :
    Oblivious Alike (fill opened plugin start name config size) := by
  unfold fill
  apply Oblivious.bind (Buffer.oblivious_allocate size)
  intro allocated
  cases allocated with
  | error cause => exact .pure _
  | ok buffer =>
    apply Oblivious.bind oblivious_fresh
    intro number
    apply Oblivious.bind (oblivious_consult _)
    intro reply
    apply Oblivious.bind (oblivious_record _ _)
    intro _
    split
    · exact .bind (oblivious_note _) fun _ => .pure _
    · exact .pure _

end Context

theorem oblivious_openConventional (loader : ModuleLoader ω) (name : String) :
    Oblivious Alike (openConventional loader name) := by
  unfold openConventional
  cases libraryName? name with
  | none => exact .bind (oblivious_note _) fun _ => .pure _
  | some path => exact OpenModule.oblivious_open? loader path

theorem oblivious_locate (loader : ModuleLoader ω) (name : String) :
    Oblivious Alike (locate loader name) := by
  unfold locate
  apply Oblivious.bind (OpenModule.oblivious_open? loader name)
  intro opened
  cases opened with
  | some opened => exact .pure _
  | none => exact oblivious_openConventional loader name

theorem oblivious_start [Memory ω] (opened : OpenModule ω) (name : String)
    (config : Option String) :
    Oblivious Alike (start opened name config) := by
  unfold start
  cases opened.exports.transport with
  | none => exact .bind (oblivious_note _) fun _ => .pure _
  | some plugin =>
    apply Oblivious.bind (oblivious_consult _)
    intro info
    apply Oblivious.bind (oblivious_record _ _)
    intro _
    cases info with
    | none => exact .pure _
    | some info =>
      simp only [Platform.peek_eq, pure_bind]
      cases info.value.start with
      | none => exact .pure _
      | some routine =>
        apply Oblivious.bind (Context.oblivious_querySize opened plugin routine name config)
        intro size
        cases size with
        | error cause => exact .pure _
        | ok size =>
          apply Oblivious.bind (Context.oblivious_fill opened plugin routine name config size)
          intro context
          cases context with
          | error cause => exact .pure _
          | ok context => exact .pure _

-- A transport is loaded into the slot only if it is empty.
theorem oblivious_load [Memory ω] (loader : ModuleLoader ω) (name : String)
    (config : Option String) :
    Oblivious Alike (load loader name config) := by
  unfold load
  apply Oblivious.read
  · intro s t alike
    rw [alike.transport]
  · intro s
    split
    · exact .bind (oblivious_note _) fun _ => .pure _
    · apply Oblivious.bind (oblivious_locate loader name)
      intro opened
      cases opened with
      | none => exact .bind (oblivious_note _) fun _ => .pure _
      | some opened =>
        apply Oblivious.bind (oblivious_start opened name config)
        intro started
        cases started with
        | error cause => exact .bind opened.oblivious_close fun _ => .pure _
        | ok made => exact .bind (oblivious_setTransport _) fun _ => .pure _

theorem oblivious_unload : Oblivious (Alike (ω := ω)) unload := by
  unfold unload
  apply Oblivious.read
  · intro s t alike
    rw [alike.transport]
  · intro s
    split
    · exact oblivious_setTransport none
    · exact .pure _

end Transport

namespace Command

theorem Library.oblivious_openAt (loader : ModuleLoader ω) (path : String) :
    Oblivious Alike (Library.openAt loader path) := by
  unfold Library.openAt
  apply Oblivious.bind (OpenModule.oblivious_open? loader path)
  intro opened
  cases opened with
  | none => exact .pure _
  | some opened =>
    dsimp only
    cases Library.resolve? opened with
    | some library => exact .pure _
    | none =>
      apply Oblivious.bind (oblivious_note _)
      exact fun _ => .bind opened.oblivious_close fun _ => .pure _

namespace Hardware

theorem oblivious_bind [Memory ω] (library : Library ω) (transport : Transport.Context ω) :
    Oblivious Alike (bind library transport) := by
  unfold bind
  apply Oblivious.bind (oblivious_consult _)
  intro size
  apply Oblivious.bind (oblivious_record _ _)
  intro _
  apply Oblivious.bind (Buffer.oblivious_allocate size)
  intro allocated
  cases allocated with
  | error cause => exact .bind (oblivious_note _) fun _ => .pure _
  | ok buffer =>
    apply Oblivious.bind oblivious_fresh
    intro number
    apply Oblivious.bind (oblivious_consult _)
    intro status
    apply Oblivious.bind (oblivious_record _ _)
    intro _
    split
    · exact .bind (oblivious_note _) fun _ => .pure _
    · exact .pure _

theorem oblivious_bringUp [Memory ω] (loader : ModuleLoader ω) (path : String)
    (spec : Transport.Spec) :
    Oblivious Alike (bringUp loader path spec) := by
  unfold bringUp
  apply Oblivious.bind (Library.oblivious_openAt loader path)
  intro library
  cases library with
  | error cause => exact .pure _
  | ok library =>
    apply Oblivious.bind (Transport.oblivious_load loader spec.name spec.config)
    intro transport
    cases transport with
    | error cause => exact .bind library.opened.oblivious_close fun _ => .pure _
    | ok transport =>
      apply Oblivious.bind (oblivious_bind library transport)
      intro command
      cases command with
      | error cause =>
        apply Oblivious.bind transport.oblivious_finalize
        intro _
        apply Oblivious.bind Transport.oblivious_unload
        exact fun _ => .bind library.opened.oblivious_close fun _ => .pure _
      | ok command => exact .bind (oblivious_note _) fun _ => .pure _

theorem oblivious_nestedTransport (library : Library ω) (command : CommandContext) :
    Oblivious Alike (nestedTransport library command) := by
  unfold nestedTransport
  apply Oblivious.bind (oblivious_consult _)
  rintro ⟨status, nested⟩
  apply Oblivious.bind (oblivious_record _ _)
  intro _
  split
  · exact .bind (oblivious_note _) fun _ => .pure _
  · exact .pure _

theorem oblivious_releaseTransport (transport : Transport.Context ω) (nested : Option Nat) :
    Oblivious Alike (releaseTransport transport nested) := by
  have finalized : Oblivious Alike (do
      let _ ← transport.finalize
      return ()) := .bind transport.oblivious_finalize fun _ => .pure _
  unfold releaseTransport
  cases nested with
  | none => exact oblivious_note _
  | some number =>
    dsimp only
    split
    · exact .bind (oblivious_note _) fun _ => finalized
    · exact finalized

theorem oblivious_teardown (hardware : Hardware ω) : Oblivious Alike hardware.teardown := by
  unfold teardown
  cases hardware.command with
  | none => exact .pure _
  | some command =>
    apply Oblivious.bind (oblivious_nestedTransport _ _)
    intro nested
    apply Oblivious.bind (oblivious_record _ _)
    intro _
    apply Oblivious.bind (oblivious_consult _)
    intro _
    cases hardware.transport with
    | none => exact .bind Transport.oblivious_unload fun _ => .pure _
    | some transport =>
      apply Oblivious.bind (oblivious_releaseTransport transport nested)
      exact fun _ => .bind Transport.oblivious_unload fun _ => .pure _

theorem oblivious_drop (hardware : Hardware ω) : Oblivious Alike hardware.drop :=
  .bind hardware.oblivious_teardown fun left => left.library.opened.oblivious_close

end Hardware

end Command

namespace Locking

namespace Bridge

theorem oblivious_install (number : Nat) : Oblivious (Alike (ω := ω)) (install number) := by
  unfold install
  apply Oblivious.read
  · intro s t alike
    rw [alike.registry]
  · intro s
    dsimp only
    cases (s.registry number).callback with
    | none =>
      apply Oblivious.bind (oblivious_record _ _)
      exact fun _ => .bind (oblivious_writeCallback _ _) fun _ => .pure _
    | some callback => exact .bind (oblivious_note _) fun _ => .pure _

theorem oblivious_allocate [Memory ω] (count : Int) :
    Oblivious (Alike (ω := ω)) (allocate count) := by
  unfold allocate
  split
  · exact .pure _
  · exact .bind (oblivious_consult _) fun _ => .pure _

theorem oblivious_setup [Memory ω] (number : Nat) : Oblivious (Alike (ω := ω)) (setup number) := by
  unfold setup
  apply Oblivious.read
  · intro s t alike
    rw [alike.registry]
  · intro s
    dsimp only
    split
    · exact .pure _
    · apply Oblivious.bind (oblivious_record _ _)
      intro _
      apply Oblivious.bind (oblivious_allocate _)
      intro allocated
      cases allocated with
      | error cause => exact .pure _
      | ok pool =>
        apply Oblivious.bind oblivious_fresh
        intro share
        apply Oblivious.bind (oblivious_setPool _)
        exact fun _ => .bind (oblivious_install number) fun _ => .pure _

theorem oblivious_removeCallback (bridge : Bridge) (owns : Bool) :
    Oblivious (Alike (ω := ω)) (bridge.removeCallback owns) := by
  unfold removeCallback
  apply Oblivious.read
  · intro s t alike
    rw [alike.registry]
  · intro s
    dsimp only
    split
    · exact .bind (oblivious_record _ _) fun _ => oblivious_writeCallback _ _
    · exact oblivious_note _

theorem ownsPool_congr (bridge : Bridge) {s t : Platform ω} (alike : Alike s t) :
    bridge.ownsPool s = bridge.ownsPool t := by
  unfold ownsPool
  rw [alike.pool]

theorem oblivious_teardown (bridge : Bridge) : Oblivious (Alike (ω := ω)) bridge.teardown := by
  have emptied : ∀ (owns : Bool) (left : Bridge), Oblivious (Alike (ω := ω)) (do
      if owns then Platform.setPool none
      return left) := by
    intro owns left
    cases owns with
    | true => exact .bind (oblivious_setPool none) fun _ => .pure _
    | false => exact .pure _
  unfold teardown
  apply Oblivious.read
  · intro s t alike
    rw [bridge.ownsPool_congr alike]
  · intro s
    dsimp only
    split
    · exact .bind (bridge.oblivious_removeCallback _) fun _ => emptied _ _
    · exact emptied _ _

end Bridge

theorem oblivious_serve (mode index : Int32) (file : Option Bytes) (line : Int32) :
    Oblivious (Alike (ω := ω)) (serve mode index file line) := by
  unfold serve
  apply Oblivious.read
  · intro s t alike
    rw [alike.pool]
  · intro s
    cases s.pool with
    | none => exact oblivious_note _
    | some published =>
      dsimp only
      have applied : ∀ pool : Option Published,
          Oblivious (Alike (ω := ω)) (modify fun s => { s with pool }) := fun pool =>
        oblivious_modify (fun _ => rfl) (fun _ => rfl) (fun _ => rfl) fun _ _ same =>
          congrArg (fun contents : Ledger.Slots ω => { contents with pool }) same
      apply Oblivious.bind (applied _)
      intro _
      cases (published.pool.apply mode index).1 with
      | outOfRange => exact oblivious_note _
      | notHeld => exact oblivious_note _
      | _ => exact .pure _

theorem Callback.oblivious_call (callback : Callback) (mode index : Int32) (file : Option Bytes)
    (line : Int32) : Oblivious (Alike (ω := ω)) (callback.call mode index file line) := by
  cases callback with
  | bridge => exact oblivious_serve mode index file line
  | foreign owner => exact oblivious_record _ _

end Locking

end CryptoProvider
