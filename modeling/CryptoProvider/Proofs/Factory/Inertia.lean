import CryptoProvider.Proofs.Factory.Aftermath
import CryptoProvider.Proofs.Factory.Passing

/-!
Handles and products of instances that were torn down. Whatever a caller does with them, the run goes
on as it would have gone on without: two runs are played side by side, one with such touches and one
without, and they differ in notices and in counts of handles only.
-/

set_option autoImplicit false

namespace CryptoProvider

open Factory

variable {ω : Type}

namespace Factory

/-- Whether an instance was built and is not the current one any more. -/
def Gone (s : Process ω) (number : Nat) : Prop :=
  number < s.instances.length ∧ s.current ≠ some number

/-- What a caller can do with a handle or a product. -/
inductive Touch where
  | cloneHandle (number : Nat)
  | dropHandle (number : Nat)
  | dispatch (number : Nat) (request : Request)
  | cipher (product : Product.Cipher) (operation : Product.Cipher.Operation)
  | scheme (product : Product.Scheme) (operation : Product.Scheme.Operation)
  | hash (product : Product.Hash) (operation : Product.Hash.Operation)
  | mac (product : Product.Mac) (operation : Product.Mac.Operation)
  | random (product : Product.Random) (count : Nat)
  /-- A product knows its suite or generator by number only, so nothing is released with it. -/
  | dropProduct (product : Made)

namespace Touch

def run : Touch → StateM (Process ω) Unit
  | .cloneHandle number => changeHandles number (· + 1)
  | .dropHandle number => Factory.dropHandle number
  | .dispatch number request => discard (Factory.dispatch number request)
  | .cipher product operation => discard (product.perform operation)
  | .scheme product operation => discard (product.perform operation)
  | .hash product operation => discard (product.perform operation)
  | .mac product operation => discard (product.perform operation)
  | .random product count => discard (product.perform count)
  | .dropProduct _ => pure ()

/-- The product that is touched, as it was when it was dispatched: without a stream. -/
def product? : Touch → Option Made
  | .cloneHandle _ | .dropHandle _ | .dispatch _ _ => none
  | .cipher product _ => some (.cipher product)
  | .scheme product _ => some (.scheme product)
  | .hash product _ | .dropProduct (.hash product) => some (.hash { product with stream := none })
  | .mac product _ => some (.mac product)
  | .random product _ => some (.random product)
  | .dropProduct product => some product

/-- Whether a touch, after some steps, is of a handle on an instance that is gone, or of a product
that was dispatched by one in the course of these steps. -/
inductive Stale [Memory ω] (start : Process ω) (done : List (Step ω)) : Touch → Prop where
  | cloneHandle (number : Nat) (gone : Gone (after done start) number) :
      Stale start done (.cloneHandle number)
  | dropHandle (number : Nat) (gone : Gone (after done start) number) :
      Stale start done (.dropHandle number)
  | dispatch (number : Nat) (gone : Gone (after done start) number) (request : Request) :
      Stale start done (.dispatch number request)
  | product (number : Nat) (gone : Gone (after done start) number)
      (before later : List (Step ω)) (course : done = before ++ later) (request : Request)
      (made : Made) (obtained : (Factory.dispatch number request (after before start)).1 = .ok made)
      (touch : Touch) (touched : touch.product? = some made) : Stale start done touch

end Touch

section

variable {frame : List Ledger.Entry} {s t : Process ω} {number : Nat}

theorem Gone.subsystems? (steady : Steady false frame s) (gone : Gone s number) :
    Factory.subsystems? s number = none := by
  have dead := (not_congr (steady.standing.live number)).mpr gone.2
  exact Option.not_isSome_iff_eq_none.mp dead

theorem Need.Lost.alike {need : Need} (lost : need.Lost s) (alike : Process.Alike s t) :
    need.Lost t := by
  cases need with
  | suite place =>
    unfold Need.Lost
    rw [← alike.suites]
    exact lost
  | generator place =>
    unfold Need.Lost
    rw [← alike.generators]
    exact lost

end

end Factory

namespace Product

variable {s : Process ω} {place : Nat}

theorem Hash.unchanged_of_lost (digest : Digest) (lost : (Need.suite place).Lost s)
    (kind : HashKind) (stream : Option Digest.Stream) (operation : Hash.Operation) :
    ((Hash.mk kind ⟨digest, some place⟩ stream).perform operation s).2 = s := by
  cases asks : operation.asks with
  | true => exact (Hash.fails_of_lost digest lost kind stream asks).2.2
  | false =>
    cases operation with
    | hash response data output =>
      cases output with
      | none => rfl
      | some buffer => cases asks
    | finish response output =>
      cases output with
      | none => rfl
      | some buffer => cases asks
    | _ => cases asks

theorem Mac.unchanged_of_lost (digest : Digest) (lost : (Need.suite place).Lost s)
    (kind : MacKind) (operation : Mac.Operation) :
    ((Mac.hmac kind ⟨digest, some place⟩).perform operation s).2 = s := by
  cases asks : operation.asks with
  | true => exact (Mac.fails_of_lost digest lost kind asks).2.2
  | false =>
    cases operation with
    | sign ciphers response key data output =>
      cases output with
      | none => rfl
      | some buffer => cases asks
    | _ => cases asks

end Product

namespace Factory

theorem Idle.unchanged {α : Type} {program : StateM (Process ω) α} {property : α → Prop}
    (idle : Idle program property) (s : Process ω) : (program s).2 = s := by
  obtain ⟨value, _, same⟩ := idle
  rw [same]

-- A product whose needs are lost, or that has none, does nothing to the process.
theorem Made.MadeOf.unchanged {owned : Subsystems ω} {made : Made} {s : Process ω} {touch : Touch}
    (madeOf : made.MadeOf owned) (lost : ∀ need : Need, need.PartOf owned → need.Lost s)
    (touched : touch.product? = some made) : (touch.run s).2 = s := by
  cases touch with
  | cloneHandle number => cases touched
  | dropHandle number => cases touched
  | dispatch number request => cases touched
  | cipher product operation => exact Idle.unchanged (product.idle_perform operation) s
  | scheme product operation =>
    cases touched
    cases madeOf with
    | scheme _ builtin => exact Idle.unchanged (product.idle_perform builtin operation) s
    | suiteScheme digest place part =>
      exact (Product.Scheme.fails_of_lost digest (lost (.suite place) part) operation).2.2
  | hash product operation =>
    obtain ⟨kind, source, stream⟩ := product
    cases touched
    cases madeOf with
    | hash _ digest builtin =>
      exact Idle.unchanged (Product.Hash.idle_perform digest _ rfl operation) s
    | suiteHash digest place part =>
      exact Product.Hash.unchanged_of_lost digest (lost (.suite place) part) _ stream operation
  | mac product operation =>
    cases touched
    cases madeOf with
    | hmac kind digest builtin =>
      exact Idle.unchanged
        (Product.Mac.idle_perform (Product.Mac.idle_sign_builtin kind digest) operation) s
    | cmac family =>
      exact Idle.unchanged
        (Product.Mac.idle_perform (Product.Mac.idle_sign_cmac family) operation) s
    | suiteHmac digest place part =>
      exact Product.Mac.unchanged_of_lost digest (lost (.suite place) part) _ operation
  | random product count =>
    cases touched
    cases madeOf with
    | random place part =>
      have idle := Product.Random.generate_of_lost (lost (.generator place) part) count
      change (Product.Random.generate ⟨place⟩ count s).2 = s
      rw [idle]
  | dropProduct product => rfl

-- Wherever a run is at, a stale touch leaves it there.
theorem alike_touch [Memory ω] {start t : Process ω} {done : List (Step ω)} {touch : Touch}
    (steady : Steady false [] start) (alike : Process.Alike (after done start) t)
    (stale : touch.Stale start done) : Process.Alike t (touch.run t).2 := by
  have reached : Steady false [] (after done start) := steady_after (by simp) steady
  cases stale with
  | cloneHandle number gone => exact alike_changeHandles number _ t
  | dropHandle number gone => exact alike_changeHandles number _ t
  | dispatch number gone request => exact tells_dispatch number request t
  | product number gone before later course request made obtained touch touched =>
    subst course
    obtain ⟨owned, owns, madeOf⟩ := madeOf_of_dispatch obtained
    have parts := gone.subsystems? reached
    have lost : ∀ need : Need, need.PartOf owned → need.Lost t := by
      intro need part
      have early : Steady false [] (after before start) := steady_after (by simp) steady
      rw [after_append] at parts alike
      rcases remains_after early owns part later with lives | ⟨_, lost⟩
      · rw [lives] at parts
        cases parts
      · exact lost.alike alike
    rw [madeOf.unchanged lost touched]
    exact .refl t

/-! Two runs side by side. -/

/-- Whether every touch in a run, which goes on after some steps, is stale where it happens. -/
def AllStale [Memory ω] (start : Process ω) : (done : List (Step ω)) → List (Turn ω Touch) → Prop
  | _, [] => True
  | done, .step next :: turns => AllStale start (done ++ [next]) turns
  | done, .call touch :: turns => touch.Stale start done ∧ AllStale start done turns

/-- Plays a run: the answers of its steps, and the state in the end. -/
def play [Memory ω] : List (Turn ω Touch) → Process ω → List (Answer ω) × Process ω
  | [], s => ([], s)
  | .step next :: turns, s =>
    let (answer, s) := next.perform s
    let (answers, last) := play turns s
    (answer :: answers, last)
  | .call touch :: turns, s => play turns (touch.run s).2

/-- The steps of a run, without the touches. -/
def untouched (turns : List (Turn ω Touch)) : List (Step ω) :=
  turns.filterMap fun turn =>
    match turn with
    | .step next => some next
    | .call _ => none

theorem play_steps [Memory ω] (steps : List (Step ω)) (s : Process ω) :
    (play (steps.map .step) s).2 = after steps s := by
  induction steps generalizing s with
  | nil => rfl
  | cons step steps ih =>
    change (play (steps.map .step) (step.perform s).2).2 = after steps (step.run s).2
    rw [ih, step.run_eq_perform]

theorem alike_play [Memory ω] {start t : Process ω} {done : List (Step ω)}
    {turns : List (Turn ω Touch)}
    (steady : Steady false [] start) (stale : AllStale start done turns)
    (alike : Process.Alike (after done start) t) :
    (play turns t).1 = (play ((untouched turns).map .step) (after done start)).1 ∧
      Process.Alike (after (done ++ untouched turns) start) (play turns t).2 := by
  induction turns generalizing done t with
  | nil =>
    rw [untouched, List.filterMap_nil, List.append_nil]
    exact ⟨rfl, alike⟩
  | cons turn turns ih =>
    cases turn with
    | step next =>
      obtain ⟨same, later⟩ := next.regular_perform.oblivious _ _ alike
      have reached : (next.perform (after done start)).2 = after (done ++ [next]) start := by
        rw [after_append, ← next.run_eq_perform]
        rfl
      rw [reached] at later
      obtain ⟨answers, last⟩ := ih stale later
      have course : done ++ untouched (.step next :: turns) = done ++ [next] ++ untouched turns := by
        simp [untouched]
      rw [course]
      refine ⟨?_, last⟩
      change (next.perform t).1 :: (play turns (next.perform t).2).1 =
        (next.perform (after done start)).1 ::
          (play ((untouched turns).map .step) (next.perform (after done start)).2).1
      rw [same, reached, answers]
    -- A touch is no step, so the other run stays where it is.
    | call touch => exact ih stale.2 (alike.trans (alike_touch steady alike stale.1))

/-- Handles and products of instances that were torn down are inert: such a handle reports nothing,
and a run in which they are touched, anywhere and in any way, does what it would do without. -/
theorem stale_objects_inert [Memory ω] (outside : ω) (hosts : List Locking.Host)
    (turns : List (Turn ω Touch)) (stale : AllStale (Process.launch outside hosts) [] turns) :
    let touched := play turns (Process.launch outside hosts)
    let clean := play ((untouched turns).map .step) (Process.launch outside hosts)
    (∀ number, Gone touched.2 number →
      isReset touched.2 number = true ∧
      capabilities touched.2 number = ⟨false, false, false, false, .notInstalled⟩ ∧
      ∀ (α : Type) (look : Command.Hardware ω → α), withHardware touched.2 number look = none) ∧
    touched.2.calls = clean.2.calls ∧
    touched.2.current = clean.2.current ∧
    touched.2.transport = clean.2.transport ∧
    touched.2.pool = clean.2.pool ∧
    touched.2.registries = clean.2.registries ∧
    touched.1 = clean.1 ∧
    (∀ number, capabilities touched.2 number = capabilities clean.2 number) ∧
    ∀ (number : Nat) (α : Type) (look : Command.Hardware ω → α),
      withHardware touched.2 number look = withHardware clean.2 number look := by
  intro touched clean
  have start : Steady false [] (Process.launch outside hosts) := steady_launch outside hosts
  obtain ⟨answers, alike⟩ := alike_play start stale (.refl _)
  rw [List.nil_append, ← play_steps] at alike
  change Process.Alike clean.2 touched.2 at alike
  have steady : Steady false [] clean.2 := by
    rw [play_steps]
    exact steady_after (by simp) start
  have owned := alike.owned
  refine ⟨fun number gone => ?_, alike.platform.calls.symm, alike.current.symm,
    alike.platform.transport.symm, alike.platform.pool.symm, alike.platform.registries.symm,
    answers, fun number => ?_, fun number α look => ?_⟩
  · have same : Gone clean.2 number := by
      rw [Gone, alike.length, alike.current]
      exact gone
    have parts := same.subsystems? steady
    rw [owned] at parts
    refine ⟨?_, ?_, fun α look => ?_⟩
    · rw [isReset, parts]
      rfl
    · rw [capabilities, parts]
    · rw [withHardware, parts]
      rfl
  · rw [capabilities, capabilities, owned]
  · rw [withHardware, withHardware, owned]

/-- A run in which an instance is reset and built anew, and the handle on it and a product of it are
touched afterwards. -/
def Willing.touches : List (Turn Unit Touch) :=
  [.step Willing.demand, .step .reset, .call (.dispatch 0 (.hash .gost)), .step Willing.demand,
    .call (.hash ⟨.gost, ⟨Digest.sha256, some 0⟩, none⟩ (.hash .served [1, 2, 3] (some [9, 9]))),
    .call (.dropHandle 0), .step (.dispatch 1 (.hash .gost))]

theorem stale_objects_inert_willing :
    AllStale (Process.launch () [Willing.host]) [] Willing.touches ∧
      (play Willing.touches (Process.launch () [Willing.host])).2.calls =
        (play ([Willing.demand, .reset, Willing.demand, .dispatch 1 (.hash .gost)].map .step)
          (Process.launch () [Willing.host])).2.calls := by
  have gone : ∀ steps : List (Step Unit), steps = [] ∨ steps = [Willing.demand] →
      Gone (after ([Willing.demand, .reset] ++ steps) (Process.launch () [Willing.host])) 0 := by
    rintro _ (rfl | rfl)
    · exact ⟨by decide, nofun⟩
    · exact ⟨by decide, nofun⟩
  have stale : AllStale (Process.launch () [Willing.host]) [] Willing.touches := by
    refine ⟨.dispatch 0 (gone [] (.inl rfl)) _, ?_, .dropHandle 0 (gone _ (.inr rfl)), trivial⟩
    exact .product 0 (gone [Willing.demand] (.inr rfl)) [Willing.demand] [.reset, Willing.demand] rfl
      (.hash .gost) (.hash ⟨.gost, ⟨Digest.sha256, some 0⟩, none⟩) rfl _ rfl
  exact ⟨stale, (stale_objects_inert () [Willing.host] Willing.touches stale).2.1⟩

end Factory

end CryptoProvider
