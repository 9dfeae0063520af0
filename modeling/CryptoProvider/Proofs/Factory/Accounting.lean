import CryptoProvider.Proofs.Factory.Run

/-!
Resource accounting over whole runs. When no instance is live, every life is settled: whatever was
found, opened, started or made was given back as often and in the order that it has to be,
whichever collaborators failed and wherever construction stopped.
-/

set_option autoImplicit false

namespace CryptoProvider.Factory

open Ledger

variable {ω : Type}

theorem stock_eq_nil {s : Process ω} (standing : Standing (resting [] s) s)
    (idle : s.current = none) : stock s = [] := by
  have nobody : live? s = none := live?_of_none idle
  have suites := standing.suites
  have generators := standing.generators
  change (suiteShelf s).Counted ((live? s).bind Subsystems.suite).toList [] at suites
  change (generatorShelf s).Counted ((live? s).bind Subsystems.generator).toList [] at generators
  rw [nobody] at suites generators
  rw [stock, nobody, suites.held_eq_nil, generators.held_eq_nil]
  rfl

/-- After any run that leaves no live instance, every life is settled. -/
theorem lives_settled [Memory ω] (outside : ω) (hosts : List Locking.Host) (steps : List (Step ω))
    (idle : isInitialized (after steps (Process.launch outside hosts)) = false) (number : Nat) :
    Settled number ((after steps (Process.launch outside hosts)).life number) := by
  have steady : Steady false [] (after steps (Process.launch outside hosts)) :=
    steady_after (by simp) (steady_launch outside hosts)
  have none : (after steps (Process.launch outside hosts)).current = none :=
    Option.isSome_eq_false_iff.mp idle |> Option.isNone_iff_eq_none.mp
  refine steady.accounts.settled number ?_
  rw [stock_eq_nil steady.standing none]
  exact List.not_mem_nil

theorem lives_settled_willing :
    isInitialized (after [Willing.demand, .reset] (Process.launch () [Willing.host])) = false ∧
      Settled 1 ((after [Willing.demand, .reset] (Process.launch () [Willing.host])).life 1) :=
  ⟨rfl, lives_settled () [Willing.host] [Willing.demand, .reset] rfl 1⟩

end CryptoProvider.Factory
