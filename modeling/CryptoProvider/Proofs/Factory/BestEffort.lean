import CryptoProvider.Proofs.Factory.Epochs
import CryptoProvider.Proofs.Factory.Parts
import CryptoProvider.Proofs.Factory.Provenance

/-!
What an instance is good for once it is built: every builtin product, whatever came up, and the parts
that did; a part that does not come up is missed by those that need it only.
-/

set_option autoImplicit false

namespace CryptoProvider.Factory

variable {ω : Type}

section

variable {s : Process ω} {number : Nat} {owned : Subsystems ω}

/-- Whether a request is for a product that needs no part of an instance. -/
def Request.builtin : Request → Bool
  | .cipher kind => kind ≠ .unknown
  | .scheme kind => kind ≠ .unknown ∧ kind ≠ .gost
  | .hash kind => kind ≠ .unknown ∧ kind ≠ .gost
  | .mac kind => kind ≠ .unknown ∧ kind ≠ .hmacGost
  | .random _ => false

/-- The request that a product answers. -/
def Made.request : Made → Request
  | .cipher product => .cipher product.kind
  | .scheme product => .scheme product.kind
  | .hash product => .hash product.kind
  | .mac product => .mac product.kind
  | .random _ => .random .standard

theorem answer_of_live {α : Type} {rest : Except Error (Subsystems ω) →
    StateM (Process ω) (Except Error α)} {product : α} (make : α → Made)
    (owns : subsystems? s number = some owned) (given : rest (.ok owned) s = (.ok product, s)) :
    (do return (← live number >>= rest).map make : StateM (Process ω) (Except Error Made)) s =
      (.ok (make product), s) := by
  simp only [bind_apply, live_of_owns owns, given]
  rfl

-- Such a request is answered, whatever else the instance has, and nothing happens.
theorem dispatch_builtin (owns : subsystems? s number = some owned) {request : Request}
    (builtin : request.builtin = true) :
    ∃ made, dispatch number request s = (.ok made, s) ∧ made.request = request := by
  cases request with
  | cipher kind =>
    cases kind with
    | unknown => cases builtin
    | _ => exact ⟨_, answer_of_live .cipher owns rfl, rfl⟩
  | scheme kind =>
    cases kind with
    | unknown | gost => cases builtin
    | _ => exact ⟨_, answer_of_live .scheme owns rfl, rfl⟩
  | hash kind =>
    cases kind with
    | unknown | gost => cases builtin
    | _ => exact ⟨_, answer_of_live .hash owns rfl, rfl⟩
  | mac kind =>
    cases kind with
    | unknown | hmacGost => cases builtin
    | _ => exact ⟨_, answer_of_live .mac owns rfl, rfl⟩
  | random kind => cases builtin

end

/-- Building from the options that a demand makes, in the state that they leave. -/
theorem demand_of_vacant [Memory ω] {s : Process ω} (vacant : s.current = none)
    (options : StateM (Process ω) (Options ω)) :
    demand options s =
      (⟨(build (options s).1 (options s).2).2.instances.length, true⟩,
        adopt (build (options s).1 (options s).2).1 (build (options s).1 (options s).2).2) := by
  rw [demand_of_none vacant]
  rfl

theorem hasPart_demand [Memory ω] {s : Process ω} (vacant : s.current = none)
    (options : StateM (Process ω) (Options ω)) (part : Part) :
    hasPart (demand options s).2 (demand options s).1.number part =
      (attempted (options s).1.config (comesUp (options s).1 (options s).2) part &&
        comesUp (options s).1 (options s).2 part) := by
  rw [demand_of_vacant vacant, ← has_build]
  exact hasPart_of_owns ((subsystems?_adopt _ _ _).trans (if_pos rfl)) part

section

variable {config : Config} {up other : Part → Bool} {changed : Part}

end

end CryptoProvider.Factory
