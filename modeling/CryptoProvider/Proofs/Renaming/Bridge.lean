import CryptoProvider.Proofs.Factory.Following
import CryptoProvider.Proofs.Renaming.Platform

/-!
Lock bridges in two runs. A bridge that is set up is told apart by the number of its pool only; and
both are taken down alike if each still owns the pool that is published.
-/

set_option autoImplicit false

namespace CryptoProvider.Locking.Bridge

variable {ω : Type} {c : Comparison ω} {outset : Outset}

def rename (naming : Nat → Nat) (bridge : Bridge) : Bridge :=
  { bridge with
    share := bridge.share.map fun share => { share with number := naming share.number } }

theorem paired_install (number : Nat) :
    Pair (Parallel c outset) (install number) (install number) fun state other s t =>
      other = state ∧ Parallel c outset s t := by
  unfold install
  refine Pair.bind Pair.get fun first second => Pair.given fun parallel => ?_
  have callback := congrArg Registry.callback (parallel.binding number)
  have reported := congrArg Registry.reported (parallel.binding number)
  change (first.registry number).callback = (second.registry number).callback at callback
  change (first.registry number).reported = (second.registry number).reported at reported
  dsimp only
  rw [← callback, ← reported]
  cases (first.registry number).callback with
  | none =>
    refine Pair.bind (Parallel.record rfl) fun _ _ => Pair.bind Parallel.writeCallback fun _ _ => ?_
    exact .pure fun _ _ parallel => ⟨rfl, parallel⟩
  | some callback =>
    exact Pair.bind Parallel.note fun _ _ => .pure fun _ _ parallel => ⟨rfl, parallel⟩

theorem paired_allocate [Memory ω] (memory : Memory.Steady c.worlds) (count : Int) :
    Pair (Parallel c outset) (allocate count) (allocate count) fun made other s t =>
      other = made ∧ Parallel c outset s t := by
  refine Pair.ite (fun _ => .pure fun _ _ parallel => ⟨rfl, parallel⟩) fun _ => ?_
  refine Pair.bind_map (Parallel.consult (memory.pool _)) fun _ => ?_
  exact .pure fun _ _ parallel => ⟨rfl, parallel⟩

theorem paired_setup [Memory ω] (memory : Memory.Steady c.worlds) (number : Nat) :
    Pair (fun s t => (s.registry number).lockCount = (t.registry number).lockCount ∧
        Parallel c outset s t)
      (setup number) (setup number) fun made other s t =>
        other = made.map (rename c.naming) ∧ Beside c outset.first outset.second s t := by
  have unchanged {s t : Platform ω} (parallel : Parallel c outset s t) :
      Beside c outset.first outset.second s t := ⟨outset.firstPool, outset.secondPool, parallel⟩
  unfold setup
  refine Pair.bind Pair.get fun first second => Pair.given fun ⟨locks, parallel⟩ => ?_
  rw [← eq_of_binding (parallel.binding number) locks]
  refine Pair.strengthen ?_ fun _ _ both => both.2
  dsimp only
  refine Pair.ite (fun _ => .pure fun _ _ parallel => ⟨rfl, unchanged parallel⟩) fun _ => ?_
  refine Pair.bind (Parallel.record rfl) fun _ _ => ?_
  refine Pair.bind_map (paired_allocate memory _) fun allocated => ?_
  cases allocated with
  | error cause => exact .pure fun _ _ parallel => ⟨rfl, unchanged parallel⟩
  | ok pool =>
    refine Pair.bind_map Parallel.fresh_number fun share => ?_
    refine Pair.bind (Parallel.setPool rfl) fun _ _ => ?_
    refine Pair.bind_map (paired_install number) fun state => ?_
    exact .pure fun _ _ parallel => ⟨rfl, _, _, parallel⟩

theorem ownsPool_of_share {bridge : Bridge} {s : Platform ω}
    (pool : s.pool.map (·.share) = bridge.share) : bridge.ownsPool s = bridge.share.isSome := by
  rw [ownsPool_of_slots rfl]
  exact Factory.ownsSlot_of_share pool

theorem paired_removeCallback (bridge : Bridge) (owns : Bool) :
    Pair (Parallel c outset) (removeCallback bridge owns)
      (removeCallback (bridge.rename c.naming) owns) fun _ _ => Parallel c outset := by
  unfold removeCallback
  refine Pair.bind Pair.get fun first second => Pair.given fun parallel => ?_
  have callback := congrArg Registry.callback (parallel.binding bridge.registry)
  have reported := congrArg Registry.reported (parallel.binding bridge.registry)
  change (first.registry _).callback = (second.registry _).callback at callback
  change (first.registry _).reported = (second.registry _).reported at reported
  unfold rename
  dsimp only
  rw [← callback, ← reported]
  refine Pair.ite (fun _ => ?_) fun _ => Parallel.note
  exact Pair.bind (Parallel.record rfl) fun _ _ => Parallel.writeCallback

theorem paired_teardown {bridge : Bridge}
    (first : outset.firstPool.map (·.share) = bridge.share)
    (second : outset.secondPool.map (·.share) = (bridge.rename c.naming).share) :
    Pair (Parallel c outset) bridge.teardown (bridge.rename c.naming).teardown fun _ _ =>
      Beside c outset.first outset.second := by
  have released (answer other : Bridge) : Pair (Parallel c outset)
      (if bridge.share.isSome then do
        Platform.setPool none
        return answer
      else return answer)
      (if bridge.share.isSome then do
        Platform.setPool none
        return other
      else return other) fun _ _ => Beside c outset.first outset.second := by
    refine Pair.ite (fun _ => ?_) fun _ => .pure fun _ _ parallel => ⟨_, _, parallel⟩
    exact Pair.bind (Parallel.setPool rfl) fun _ _ => .pure fun _ _ parallel => ⟨_, _, parallel⟩
  unfold teardown
  refine Pair.bind Pair.get fun s t => Pair.given fun parallel => ?_
  rw [← parallel.firstPool] at first
  rw [← parallel.secondPool] at second
  have renamed : (bridge.rename c.naming).share.isSome = bridge.share.isSome := Option.isSome_map
  rw [ownsPool_of_share first, ownsPool_of_share second, renamed]
  refine Pair.ite (fun _ => ?_) fun _ => released _ _
  exact Pair.bind (paired_removeCallback bridge _) fun _ _ => released _ _

end CryptoProvider.Locking.Bridge
