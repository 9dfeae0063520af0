import CryptoProvider.Platform.State

/-!
Lives. Every module, context, engine reference and generator has a number of its own, so the calls
that name a number are the life of one thing. `Settled` says which lives leave nothing to be done;
a `Phase` says what happened so far to a thing that somebody still holds.
-/

set_option autoImplicit false

namespace CryptoProvider

/-- The numbers of the things that a call is about. -/
def Call.subjects : Call → List Nat
  | .moduleOpened module _ | .moduleClosed module _ => [module]
  | .transportInfo module _ | .transportSize module _ _ _ => [module]
  | .transportStart module _ context _ _ _ _ => [module, context]
  | .transportFinalize _ context _ _ => [context]
  | .commandStart context _ _ _ _ _ => [context]
  | .commandTransport context _ _ | .commandFinalize context => [context]
  | .engineFind _ (some engine) => [engine.number]
  | .engineStart engine _ | .engineSetDefault engine _ | .engineDigest engine _ => [engine.number]
  | .engineRegisterKeys engine | .engineControl engine _ _ => [engine.number]
  | .engineFinish engine | .engineFree engine => [engine.number]
  | .engineKey engine _ _ | .engineKeyResumes engine => [engine.number]
  | .generatorCreate (some generator) | .generate generator _ => [generator]
  | .generateResumes generator | .generatorDrop generator => [generator]
  | .moduleMissed _ | .commandSize _ _ | .engineLoad _ | .engineFind _ none => []
  | .complianceQuery _ | .complianceEnable _ | .complianceReseed => []
  | .lockCount _ _ | .callbackSet _ _ | .foreignCallback _ _ _ _ | .generatorCreate none => []

def Event.call? : Event → Option Call
  | .call _ made => some made
  | .change _ | .notice _ => none

namespace Platform

variable {ω : Type}

def calls (s : Platform ω) : List Call :=
  s.events.filterMap Event.call?

/-- The calls about the thing with a number, oldest first. -/
def life (s : Platform ω) (number : Nat) : List Call :=
  s.calls.filter fun call => number ∈ call.subjects

end Platform

namespace Ledger

def usesEngine (engine : EngineRef) : Call → Bool
  | .engineSetDefault used _ | .engineDigest used _ | .engineRegisterKeys used => used = engine
  | .engineControl used _ _ | .engineKey used _ _ | .engineKeyResumes used => used = engine
  | _ => false

def probesModule (module : Nat) : Call → Bool
  | .transportInfo probed _ | .transportSize probed _ _ _ => probed = module
  | .transportStart probed _ _ _ _ _ status => probed = module ∧ status ≠ 0
  | _ => false

def usesGenerator (generator : Nat) : Call → Bool
  | .generate used _ | .generateResumes used => used = generator
  | _ => false

def refusesStart (engine : EngineRef) (call : Call) : Prop :=
  call = .engineStart engine false

/-- The lives that are over, or may be left as they are. -/
inductive Settled (number : Nat) : List Call → Prop where
  | unused : Settled number []
  | engineRefused (engine : EngineRef) (refusals : List Call)
      (refused : ∀ call ∈ refusals, refusesStart engine call) :
      Settled number (.engineFind engine.id (some engine) :: (refusals ++ [.engineFree engine]))
  | engineReleased (engine : EngineRef) (refusals uses : List Call)
      (refused : ∀ call ∈ refusals, refusesStart engine call)
      (used : ∀ call ∈ uses, usesEngine engine call) :
      Settled number
        (.engineFind engine.id (some engine) ::
          (refusals ++ .engineStart engine true ::
            (uses ++ [.engineFinish engine, .engineFree engine])))
  | moduleClosed (path : String) (probes : List Call)
      (probed : ∀ call ∈ probes, probesModule number call) :
      Settled number (.moduleOpened number path :: (probes ++ [.moduleClosed number path]))
  /-- A module whose transport made a context is never closed. -/
  | moduleKept (path plugin : String) (probes : List Call) (context : Nat)
      (config : Option String) (size : Nat) (zeroed : Bool)
      (probed : ∀ call ∈ probes, probesModule number call) :
      Settled number
        (.moduleOpened number path ::
          (probes ++ [.transportStart number plugin context config size zeroed 0]))
  | contextRefused (module : Nat) (plugin : String) (config : Option String) (size : Nat)
      (zeroed : Bool) (status : Nat) (refused : status ≠ 0) :
      Settled number [.transportStart module plugin number config size zeroed status]
  /-- A transport context may be left without a finalizer having run. -/
  | contextLeft (module : Nat) (plugin : String) (config : Option String) (size : Nat)
      (zeroed : Bool) :
      Settled number [.transportStart module plugin number config size zeroed 0]
  | contextFinalized (module : Nat) (plugin : String) (config : Option String) (size : Nat)
      (zeroed : Bool) (magic : Nat) (loaded : Bool) :
      Settled number
        [.transportStart module plugin number config size zeroed 0,
          .transportFinalize plugin number magic loaded]
  | commandRefused (size : Nat) (zeroed : Bool) (transport : Nat) (abi : AbiVersion)
      (status : Nat) (refused : status ≠ 0) :
      Settled number [.commandStart number size zeroed transport abi status]
  /-- A command context that started is finalized once, after its transport was looked up. -/
  | commandFinalized (size : Nat) (zeroed : Bool) (transport : Nat) (abi : AbiVersion)
      (status : Nat) (nested : Option Nat) :
      Settled number
        [.commandStart number size zeroed transport abi 0, .commandTransport number status nested,
          .commandFinalize number]
  | generatorDropped (uses : List Call) (used : ∀ call ∈ uses, usesGenerator number call) :
      Settled number (.generatorCreate (some number) :: (uses ++ [.generatorDrop number]))

inductive Phase where
  | unused
  | engineFound (engine : EngineRef)
  | engineStarted (engine : EngineRef)
  | engineFinished (engine : EngineRef)
  | moduleOpen (path : String)
  | contextStarted (plugin : String)
  | commandStarted
  | commandLookedUp
  | generatorMade
  | settled
  /-- Nothing happens to the thing any more. -/
  | retired (life : List Call)
  deriving DecidableEq, Repr

def Phase.Lived (number : Nat) : Phase → List Call → Prop
  | .unused, life => life = []
  | .engineFound engine, life =>
    ∃ refusals, (∀ call ∈ refusals, refusesStart engine call) ∧
      life = .engineFind engine.id (some engine) :: refusals
  | .engineStarted engine, life =>
    ∃ refusals uses, (∀ call ∈ refusals, refusesStart engine call) ∧
      (∀ call ∈ uses, usesEngine engine call) ∧
      life = .engineFind engine.id (some engine) ::
        (refusals ++ .engineStart engine true :: uses)
  | .engineFinished engine, life =>
    ∃ refusals uses, (∀ call ∈ refusals, refusesStart engine call) ∧
      (∀ call ∈ uses, usesEngine engine call) ∧
      life = .engineFind engine.id (some engine) ::
        (refusals ++ .engineStart engine true :: (uses ++ [.engineFinish engine]))
  | .moduleOpen path, life =>
    ∃ probes, (∀ call ∈ probes, probesModule number call) ∧
      life = .moduleOpened number path :: probes
  | .contextStarted plugin, life =>
    ∃ module config size zeroed,
      life = [.transportStart module plugin number config size zeroed 0]
  | .commandStarted, life =>
    ∃ size zeroed transport abi, life = [.commandStart number size zeroed transport abi 0]
  | .commandLookedUp, life =>
    ∃ size zeroed transport abi status nested,
      life = [.commandStart number size zeroed transport abi 0,
        .commandTransport number status nested]
  | .generatorMade, life =>
    ∃ uses, (∀ call ∈ uses, usesGenerator number call) ∧
      life = .generatorCreate (some number) :: uses
  | .settled, life => Settled number life
  | .retired kept, life => life = kept

/-- A call takes a thing from one phase to another. -/
def Leads (number : Nat) (call : Call) (first second : Phase) : Prop :=
  ∀ life, first.Lived number life → second.Lived number (life ++ [call])

namespace Leads

variable {number : Nat}

theorem all_snoc {property : Call → Prop} {calls : List Call} {last : Call}
    (earlier : ∀ call ∈ calls, property call) (holds : property last) :
    ∀ call ∈ calls ++ [last], property call := by
  intro call member
  rcases List.mem_append.mp member with early | late
  · exact earlier call early
  · rw [List.mem_singleton.mp late]
    exact holds

theorem find (engine : EngineRef) :
    Leads number (.engineFind engine.id (some engine)) .unused (.engineFound engine) := by
  rintro life rfl
  exact ⟨[], by simp, rfl⟩

theorem refuse (engine : EngineRef) :
    Leads number (.engineStart engine false) (.engineFound engine) (.engineFound engine) := by
  rintro life ⟨refusals, refused, rfl⟩
  have refusal : refusesStart engine (.engineStart engine false) := rfl
  exact ⟨refusals ++ [.engineStart engine false], all_snoc refused refusal, rfl⟩

theorem start (engine : EngineRef) :
    Leads number (.engineStart engine true) (.engineFound engine) (.engineStarted engine) := by
  rintro life ⟨refusals, refused, rfl⟩
  exact ⟨refusals, [], refused, by simp, rfl⟩

theorem use {engine : EngineRef} {call : Call} (uses : usesEngine engine call) :
    Leads number call (.engineStarted engine) (.engineStarted engine) := by
  rintro life ⟨refusals, used, refused, allUse, rfl⟩
  exact ⟨refusals, used ++ [call], refused, all_snoc allUse uses, by simp⟩

theorem finish (engine : EngineRef) :
    Leads number (.engineFinish engine) (.engineStarted engine) (.engineFinished engine) := by
  rintro life ⟨refusals, uses, refused, used, rfl⟩
  exact ⟨refusals, uses, refused, used, by simp⟩

theorem free_found (engine : EngineRef) :
    Leads number (.engineFree engine) (.engineFound engine) .settled := by
  rintro life ⟨refusals, refused, rfl⟩
  exact .engineRefused engine refusals refused

theorem free_finished (engine : EngineRef) :
    Leads number (.engineFree engine) (.engineFinished engine) .settled := by
  rintro life ⟨refusals, uses, refused, used, rfl⟩
  have released : Settled number _ := .engineReleased engine refusals uses refused used
  simpa [Phase.Lived] using released

theorem open_module (path : String) :
    Leads number (.moduleOpened number path) .unused (.moduleOpen path) := by
  rintro life rfl
  exact ⟨[], by simp, rfl⟩

theorem probe {path : String} {call : Call} (probes : probesModule number call) :
    Leads number call (.moduleOpen path) (.moduleOpen path) := by
  rintro life ⟨earlier, probed, rfl⟩
  exact ⟨earlier ++ [call], all_snoc probed probes, rfl⟩

theorem close_module (path : String) :
    Leads number (.moduleClosed number path) (.moduleOpen path) .settled := by
  rintro life ⟨probes, probed, rfl⟩
  exact .moduleClosed path probes probed

theorem keep_module {path plugin : String} {context : Nat} {config : Option String} {size : Nat}
    {zeroed : Bool} :
    Leads number (.transportStart number plugin context config size zeroed 0) (.moduleOpen path)
      .settled := by
  rintro life ⟨probes, probed, rfl⟩
  exact .moduleKept path plugin probes context config size zeroed probed

theorem start_context {module : Nat} {plugin : String} {config : Option String} {size : Nat}
    {zeroed : Bool} :
    Leads number (.transportStart module plugin number config size zeroed 0) .unused
      (.contextStarted plugin) := by
  rintro life rfl
  exact ⟨module, config, size, zeroed, rfl⟩

theorem refuse_context {module : Nat} {plugin : String} {config : Option String} {size : Nat}
    {zeroed : Bool} {status : Nat} (refused : status ≠ 0) :
    Leads number (.transportStart module plugin number config size zeroed status) .unused
      .settled := by
  rintro life rfl
  exact .contextRefused module plugin config size zeroed status refused

theorem finalize_context {plugin : String} {magic : Nat} {loaded : Bool} :
    Leads number (.transportFinalize plugin number magic loaded) (.contextStarted plugin)
      .settled := by
  rintro life ⟨module, config, size, zeroed, rfl⟩
  exact .contextFinalized module plugin config size zeroed magic loaded

theorem start_command {size transport : Nat} {zeroed : Bool} {abi : AbiVersion} :
    Leads number (.commandStart number size zeroed transport abi 0) .unused .commandStarted := by
  rintro life rfl
  exact ⟨size, zeroed, transport, abi, rfl⟩

theorem refuse_command {size transport status : Nat} {zeroed : Bool} {abi : AbiVersion}
    (refused : status ≠ 0) :
    Leads number (.commandStart number size zeroed transport abi status) .unused .settled := by
  rintro life rfl
  exact .commandRefused size zeroed transport abi status refused

theorem look_up {status : Nat} {nested : Option Nat} :
    Leads number (.commandTransport number status nested) .commandStarted .commandLookedUp := by
  rintro life ⟨size, zeroed, transport, abi, rfl⟩
  exact ⟨size, zeroed, transport, abi, status, nested, rfl⟩

theorem finalize_command :
    Leads number (.commandFinalize number) .commandLookedUp .settled := by
  rintro life ⟨size, zeroed, transport, abi, status, nested, rfl⟩
  exact .commandFinalized size zeroed transport abi status nested

theorem make_generator :
    Leads number (.generatorCreate (some number)) .unused .generatorMade := by
  rintro life rfl
  exact ⟨[], by simp, rfl⟩

theorem use_generator {call : Call} (uses : usesGenerator number call) :
    Leads number call .generatorMade .generatorMade := by
  rintro life ⟨earlier, used, rfl⟩
  exact ⟨earlier ++ [call], all_snoc used uses, rfl⟩

theorem drop_generator :
    Leads number (.generatorDrop number) .generatorMade .settled := by
  rintro life ⟨uses, used, rfl⟩
  exact .generatorDropped uses used

end Leads

theorem Phase.settled_of_unused {number : Nat} {life : List Call}
    (lived : Phase.unused.Lived number life) : Phase.settled.Lived number life := by
  obtain rfl := lived
  exact .unused

theorem Phase.settled_of_contextStarted {number : Nat} {plugin : String} {life : List Call}
    (lived : (Phase.contextStarted plugin).Lived number life) :
    Phase.settled.Lived number life := by
  obtain ⟨module, config, size, zeroed, rfl⟩ := lived
  exact .contextLeft module plugin config size zeroed

end Ledger

end CryptoProvider
