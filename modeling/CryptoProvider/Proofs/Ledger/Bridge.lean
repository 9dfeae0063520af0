import CryptoProvider.Compliance
import CryptoProvider.Locking.Bridge
import CryptoProvider.Proofs.Ledger.Accounts

/-!
Compliance mode and lock bridges on the books. Neither holds anything that has a life of its own;
a bridge changes the pool slot and one registry, and takes back only what is still its own.
-/

set_option autoImplicit false

namespace CryptoProvider

open Ledger

variable {ω : Type} {rest : List Entry} {contents : Slots ω}

def Ledger.Slots.registry (contents : Slots ω) (number : Nat) : Locking.Registry :=
  contents.registries.getD number ⟨false, true, 0, none⟩

def Ledger.Slots.setCallback (contents : Slots ω) (number : Nat)
    (callback : Option Locking.Callback) : Slots ω :=
  { contents with registries := contents.registries.modify number fun r => { r with callback } }

def Ledger.Slots.setLockCount (contents : Slots ω) (number : Nat) (count : Int) : Slots ω :=
  { contents with
    registries := contents.registries.modify number fun r => { r with lockCount := count } }

namespace Ledger.Slots

theorem threadSafe_setCallback (number other : Nat) (callback : Option Locking.Callback) :
    ((contents.setCallback number callback).registry other).threadSafe =
      (contents.registry other).threadSafe := by
  simp only [registry, setCallback, List.getD_eq_getElem?_getD, List.getElem?_modify]
  cases contents.registries[other]? with
  | none => rfl
  | some registry => split <;> rfl

theorem registry_setLockCount (number other : Nat) (count : Int) :
    ((contents.setLockCount number count).registry other).threadSafe =
        (contents.registry other).threadSafe ∧
      ((contents.setLockCount number count).registry other).callback =
        (contents.registry other).callback := by
  simp only [registry, setLockCount, List.getD_eq_getElem?_getD, List.getElem?_modify]
  cases contents.registries[other]? with
  | none => exact ⟨rfl, rfl⟩
  | some registry => split <;> exact ⟨rfl, rfl⟩

theorem callback_setCallback_of_ne {number other : Nat} (differs : other ≠ number)
    (callback : Option Locking.Callback) :
    ((contents.setCallback number callback).registry other).callback =
      (contents.registry other).callback := by
  simp only [registry, setCallback, List.getD_eq_getElem?_getD,
    List.getElem?_modify_ne _ _ (Ne.symm differs)]

theorem callback_setCallback_none (number : Nat) :
    ((contents.setCallback number none).registry number).callback = none := by
  simp only [registry, setCallback, List.getD_eq_getElem?_getD, List.getElem?_modify_eq]
  cases contents.registries[number]? <;> rfl

-- Only a registry that exists needs a callback.
theorem callback_setCallback_self {number : Nat}
    (locks : (contents.registry number).threadSafe = false) (callback : Option Locking.Callback) :
    ((contents.setCallback number callback).registry number).callback = callback := by
  simp only [registry, setCallback, List.getD_eq_getElem?_getD, List.getElem?_modify_eq]
  cases found : contents.registries[number]? with
  | none => simp [registry, List.getD_eq_getElem?_getD, found] at locks
  | some registry => rfl

end Ledger.Slots

theorem Ledger.registry_of_slots {s : Platform ω} (known : slots s = contents) (number : Nat) :
    s.registry number = contents.registry number := by
  subst known
  rfl

theorem Compliance.books_enter (mode : ComplianceModule ω) :
    Ensures (Books rest contents) (enter mode) fun _ => Books rest contents := by
  unfold enter
  refine Ensures.bind Books.consult fun enabled => ?_
  refine Ensures.bind (Books.record_none rfl) fun _ => ?_
  cases enabled with
  | true =>
    refine Ensures.bind (Books.record_none rfl) fun _ => ?_
    refine Ensures.bind Books.consult fun _ => ?_
    exact Ensures.pure fun _ books => books
  | false =>
    refine Ensures.bind Books.consult fun done => ?_
    refine Ensures.bind (Books.record_none rfl) fun _ => ?_
    cases done with
    | true =>
      refine Ensures.bind Books.note fun _ => ?_
      exact Ensures.pure fun _ books => books
    | false =>
      refine Ensures.bind Books.note fun _ => ?_
      exact Ensures.pure fun _ books => books

namespace Locking.Bridge

/-- A bridge that was set up, and what that made of the shared slots. -/
inductive Established (number : Nat) (before : Slots ω) : Bridge → Slots ω → Prop where
  | inert (safe : (before.registry number).threadSafe = true) :
      Established number before ⟨number, none, .notInstalled⟩ before
  | installed (locks : (before.registry number).threadSafe = false)
      (vacant : (before.registry number).callback = none) (published : Published) :
      Established number before
        ⟨number, some ⟨published.number, published.pool.size⟩, .installedByUs⟩
        ({ before with pool := some published }.setCallback number (some .bridge))
  /-- A pool was published and another's callback left in place. -/
  | deferring (locks : (before.registry number).threadSafe = false)
      (taken : (before.registry number).callback ≠ none) (published : Published) :
      Established number before
        ⟨number, some ⟨published.number, published.pool.size⟩, .installedByOther⟩
        { before with pool := some published }

def ownsSlot (bridge : Bridge) (contents : Slots ω) : Bool :=
  match bridge.share, contents.pool with
  | some share, some published => share.number == published.number
  | _, _ => false

/-- Whether a bridge takes its callback out. -/
def ownsCallback (bridge : Bridge) (contents : Slots ω) : Prop :=
  bridge.state = .installedByUs ∧ (contents.registry bridge.registry).callback = some .bridge ∧
    bridge.ownsSlot contents = true

instance (bridge : Bridge) (contents : Slots ω) : Decidable (bridge.ownsCallback contents) :=
  inferInstanceAs (Decidable (_ ∧ _ ∧ _))

def withdrawCallback (bridge : Bridge) (contents : Slots ω) : Slots ω :=
  if bridge.ownsCallback contents then contents.setCallback bridge.registry none else contents

def dismantle (bridge : Bridge) (contents : Slots ω) : Slots ω :=
  if bridge.ownsSlot contents then { bridge.withdrawCallback contents with pool := none }
  else bridge.withdrawCallback contents

theorem ownsPool_of_slots {s : Platform ω} (known : slots s = contents) (bridge : Bridge) :
    bridge.ownsPool s = bridge.ownsSlot contents := by
  subst known
  rfl

theorem books_install {number : Nat} :
    Ensures (Books rest contents) (install number) fun state s =>
      match (contents.registry number).callback with
      | none => state = .installedByUs ∧ Books rest (contents.setCallback number (some .bridge)) s
      | some _ => state = .installedByOther ∧ Books rest contents s := by
  unfold install
  refine Ensures.bind Books.get fun state => Ensures.given fun known => ?_
  rw [registry_of_slots known]
  dsimp only
  cases (contents.registry number).callback with
  | none =>
    refine Ensures.bind (Books.record_none rfl) fun _ => ?_
    refine Ensures.bind Books.writeCallback fun _ => ?_
    exact Ensures.pure fun _ books => ⟨rfl, books⟩
  | some callback =>
    refine Ensures.bind Books.note fun _ => ?_
    exact Ensures.pure fun _ books => ⟨rfl, books⟩

theorem books_allocate [Memory ω] (count : Int) :
    Ensures (Books rest contents) (allocate count) fun _ => Books rest contents := by
  unfold allocate
  split
  · exact Ensures.pure fun _ books => books
  · exact Ensures.bind Books.consult fun _ => Ensures.pure fun _ books => books

theorem books_setup [Memory ω] (number : Nat) :
    Ensures (Books rest contents) (setup number) fun made s =>
      match made with
      | .ok bridge => ∃ after, Established number contents bridge after ∧ Books rest after s
      | .error _ => Books rest contents s := by
  unfold setup
  refine Ensures.bind Books.get fun state => Ensures.given fun known => ?_
  rw [registry_of_slots known]
  dsimp only
  cases safe : (contents.registry number).threadSafe with
  | true => exact Ensures.pure fun _ books => ⟨_, .inert safe, books⟩
  | false =>
    refine Ensures.bind (Books.record_none rfl) fun _ => ?_
    refine Ensures.bind (books_allocate _) fun allocated => ?_
    cases allocated with
    | error cause => exact Ensures.pure fun _ books => books
    | ok pool =>
      refine Ensures.bind Books.fresh fun share => ?_
      -- The number of the pool names nothing that is ever called on.
      refine Ensures.strengthen ?_ fun _ books =>
        (books.revise fun _ => Phase.settled_of_unused).discharge
      refine Ensures.bind Books.setPool fun _ => ?_
      refine Ensures.bind books_install fun state => ?_
      have same : Slots.registry { contents with pool := some ⟨share, pool⟩ } number =
          contents.registry number := rfl
      rw [same]
      cases held : (contents.registry number).callback with
      | none =>
        refine Ensures.given fun installed => ?_
        subst installed
        exact Ensures.pure fun _ books => ⟨_, .installed safe held ⟨share, pool⟩, books⟩
      | some callback =>
        refine Ensures.given fun deferred => ?_
        subst deferred
        have taken : (contents.registry number).callback ≠ none := by simp [held]
        exact Ensures.pure fun _ books => ⟨_, .deferring safe taken ⟨share, pool⟩, books⟩

theorem books_removeCallback (bridge : Bridge) (owns : Bool) :
    Ensures (Books rest contents) (removeCallback bridge owns) fun _ =>
      Books rest
        (if (contents.registry bridge.registry).callback = some .bridge ∧ owns then
          contents.setCallback bridge.registry none
        else contents) := by
  unfold removeCallback
  refine Ensures.bind Books.get fun state => Ensures.given fun known => ?_
  rw [registry_of_slots known]
  dsimp only
  split
  · refine Ensures.bind (Books.record_none rfl) fun _ => ?_
    exact Books.writeCallback
  · exact Books.note

theorem books_withdraw {α : Type} (owns : Bool) (answer : α) :
    Ensures (Books rest contents)
      (if owns then do
        Platform.setPool none
        return answer
      else return answer)
      fun _ => Books rest (if owns then { contents with pool := none } else contents) := by
  cases owns with
  | true => exact Ensures.bind Books.setPool fun _ => Ensures.pure fun _ books => books
  | false => exact Ensures.pure fun _ books => books

theorem books_teardown (bridge : Bridge) :
    Ensures (Books rest contents) bridge.teardown fun _ =>
      Books rest (bridge.dismantle contents) := by
  unfold teardown
  refine Ensures.bind Books.get fun state => Ensures.given fun known => ?_
  rw [ownsPool_of_slots known, dismantle, withdrawCallback]
  dsimp only
  by_cases ours : bridge.state = .installedByUs
  · simp only [ours, if_true, ownsCallback, true_and]
    refine Ensures.bind (books_removeCallback bridge (bridge.ownsSlot contents)) fun _ => ?_
    exact books_withdraw _ _
  · simp only [ours, if_false, ownsCallback, false_and]
    exact books_withdraw _ _

end Locking.Bridge

def Locking.Published.share (published : Locking.Published) : Locking.PoolShare :=
  ⟨published.number, published.pool.size⟩

-- A callback may take or release locks of the pool, and leaves the rest as it is.
theorem Locking.books_serve (mode index : Int32) (file : Option Bytes) (line : Int32) :
    Ensures (Books rest contents) (serve mode index file line) fun _ s =>
      ∃ pool, pool.map Published.share = contents.pool.map Published.share ∧
        Books rest { contents with pool } s := by
  unfold serve
  refine Ensures.bind Books.get fun state => Ensures.given fun known => ?_
  rw [pool_of_slots known]
  cases same : contents.pool with
  | none =>
    refine Ensures.weaken Books.note fun _ _ books => ⟨none, rfl, ?_⟩
    rw [← same]
    exact books
  | some published =>
    dsimp only
    cases applied : published.pool.apply mode index with
    | mk outcome pool =>
      have size : pool.size = published.pool.size := by
        rw [← Pool.size_apply published.pool mode index, applied]
      have changed : Ensures (Books rest contents)
          (modify fun s => { s with pool := some { published with pool } }) fun _ =>
            Books rest { contents with pool := some { published with pool } } :=
        Books.update (fun _ => rfl) (fun _ => rfl) (fun s known => known ▸ rfl)
      -- A call on the pool keeps its size and its number, which is all that a bridge knows of it.
      have shared : (some { published with pool }).map Published.share =
          (some published).map Published.share := by
        simp [Published.share, size]
      refine Ensures.bind changed fun _ => ?_
      cases outcome with
      | outOfRange | notHeld => exact Ensures.weaken Books.note fun _ _ books => ⟨_, shared, books⟩
      | taken | released | waiting => exact Ensures.pure fun _ books => ⟨_, shared, books⟩

end CryptoProvider
