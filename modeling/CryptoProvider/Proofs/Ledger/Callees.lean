import CryptoProvider.Factory.Construction
import CryptoProvider.Proofs.Ledger.Accounts

/-!
Who is called. What brings a subsystem up calls one collaborator and no other, also where it fails
and gives things back.
-/

set_option autoImplicit false

namespace CryptoProvider

open Platform (calls)

variable {ω : Type}

inductive Collaborator where
  | locking
  | compliance
  | engines
  | generators
  /-- Native modules: the loader, and the transports and command libraries that it finds. -/
  | modules
  deriving DecidableEq, Repr

def Call.callee : Call → Collaborator
  | .lockCount _ _ | .callbackSet _ _ | .foreignCallback _ _ _ _ => .locking
  | .complianceQuery _ | .complianceEnable _ | .complianceReseed => .compliance
  | .engineLoad _ | .engineFind _ _ | .engineStart _ _ | .engineSetDefault _ _ => .engines
  | .engineDigest _ _ | .engineRegisterKeys _ | .engineControl _ _ _ => .engines
  | .engineFinish _ | .engineFree _ | .engineKey _ _ _ | .engineKeyResumes _ => .engines
  | .generatorCreate _ | .generate _ _ | .generateResumes _ | .generatorDrop _ => .generators
  | .moduleOpened _ _ | .moduleMissed _ | .moduleClosed _ _ => .modules
  | .transportInfo _ _ | .transportSize _ _ _ _ | .transportStart _ _ _ _ _ _ _ => .modules
  | .transportFinalize _ _ _ _ | .commandSize _ _ | .commandStart _ _ _ _ _ _ => .modules
  | .commandTransport _ _ _ | .commandFinalize _ => .modules

/-- The calls that were made in the whole process. -/
def Process.allCalls (s : Process ω) : List Call :=
  s.calls

/-- The calls that a program makes, if any, go to one collaborator. -/
def Confined {σ α : Type} (calls : σ → List Call) (callee : Collaborator) (program : StateM σ α) :
    Prop :=
  ∀ s, ∃ made, calls (program s).2 = calls s ++ made ∧ ∀ call ∈ made, call.callee = callee

namespace Confined

variable {callee : Collaborator}

section

variable {σ α β : Type} {calls : σ → List Call}

theorem quiet {program : StateM σ α} (same : ∀ s, calls (program s).2 = calls s) :
    Confined calls callee program :=
  fun s => ⟨[], (same s).trans (List.append_nil _).symm, nofun⟩

theorem pure (value : α) : Confined calls callee (Pure.pure value) :=
  quiet fun _ => rfl

theorem bind {program : StateM σ α} {rest : α → StateM σ β}
    (first : Confined calls callee program) (next : ∀ value, Confined calls callee (rest value)) :
    Confined calls callee (program >>= rest) := by
  intro s
  obtain ⟨early, before, among⟩ := first s
  obtain ⟨late, after, within⟩ := next (program s).1 (program s).2
  refine ⟨early ++ late, ?_, fun call member => ?_⟩
  · rw [← List.append_assoc, ← before]
    exact after
  · rcases List.mem_append.mp member with member | member
    · exact among call member
    · exact within call member

theorem read {rest : σ → StateM σ β} (next : ∀ s, Confined calls callee (rest s)) :
    Confined calls callee (MonadState.get >>= rest) :=
  fun s => next s s

-- Both ways of a choice.
theorem choice {condition : Prop} [Decidable condition] {first second : StateM σ α}
    (yes : Confined calls callee first) (no : Confined calls callee second) :
    Confined calls callee (if condition then first else second) := by
  split
  · exact yes
  · exact no

end

theorem consult {α : Type} (answer : StateM ω α) :
    Confined calls callee (Platform.consult answer) :=
  quiet fun _ => rfl

theorem fresh : Confined (calls (ω := ω)) callee Platform.fresh :=
  quiet fun _ => rfl

theorem note (notice : Notice) : Confined (calls (ω := ω)) callee (Platform.note notice) :=
  quiet fun _ => Ledger.calls_push rfl

theorem setTransport (loaded : Option (Transport.Loaded ω)) :
    Confined calls callee (Platform.setTransport loaded) :=
  quiet fun _ => Ledger.calls_push rfl

theorem setPool (pool : Option Locking.Published) :
    Confined (calls (ω := ω)) callee (Platform.setPool pool) :=
  quiet fun _ => Ledger.calls_push rfl

theorem writeCallback (number : Nat) (callback : Option Locking.Callback) :
    Confined (calls (ω := ω)) callee (Platform.writeCallback number callback) :=
  quiet fun _ => rfl

theorem record {reported : Bool} {call : Call} (known : call.callee = callee) :
    Confined (calls (ω := ω)) callee (Platform.record reported call) := by
  intro s
  refine ⟨[call], ?_, List.forall_mem_singleton.mpr known⟩
  change Platform.calls { s with trace := .call reported call :: s.trace } = _
  rw [Platform.calls, Platform.events, List.reverse_cons, List.filterMap_append]
  rfl

theorem discard {σ α : Type} {calls : σ → List Call} {program : StateM σ α}
    (confined : Confined calls callee program) : Confined calls callee (discard program) :=
  confined

theorem onPlatform {α : Type} {program : StateM (Platform ω) α}
    (confined : Confined calls callee program) :
    Confined Process.allCalls callee (Process.onPlatform program) :=
  fun s => confined s.toPlatform

end Confined

namespace Engine

namespace Handle

variable (handle : Handle ω)

end Handle

namespace Suite

end Suite

end Engine

namespace OpenModule

end OpenModule

namespace Transport

namespace Context

variable (opened : OpenModule ω) (plugin : TransportPlugin ω) (start : StartRoutine ω)
  (name : String) (config : Option String)

end Context

end Transport

namespace Command

namespace Hardware

end Hardware

end Command

namespace Locking.Bridge

end Locking.Bridge

namespace Factory

variable (options : Options ω)

end Factory

end CryptoProvider
