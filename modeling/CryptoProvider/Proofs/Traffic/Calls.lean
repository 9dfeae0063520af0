import CryptoProvider.Proofs.Factory.Passing
import CryptoProvider.Proofs.Traffic.Moves

/-!
With nothing in between, the moves of a reset are the factory's call, and the operations on products
are made of moves.
-/

set_option autoImplicit false

namespace CryptoProvider.Factory

variable {ω : Type}

/-- What an operation does once it was answered. -/
def Hold.conclude (hold : Hold ω) (resets : Bool) : StateM (Process ω) Unit := do
  if resets then
    reset
    hold.resume
  hold.release

/-- One operation that asks for something: all it does, with nothing in between. -/
def Need.operate (count : Nat) (need : Need) : StateM (Process ω) Unit := do
  match ← need.acquire? with
  | none => pure ()
  | some hold => hold.conclude (← hold.ask count)

namespace Traffic

variable {t : Traffic ω}

/-- A reset that nothing interrupts. -/
def wholeReset : List (Move ω) :=
  .reset :: List.replicate 7 .takeDown

-- The parts go in the order of destruction, whichever of them there are.
theorem after_takeDown [Memory ω] (number : Nat) (rest : Subsystems ω)
    (dismantling : t.teardown = some (.dismantling number rest)) :
    after (List.replicate 6 .takeDown) t = { t.onProcess (destroy rest) with teardown := none } := by
  obtain ⟨process, products, flights, teardown⟩ := t
  obtain rfl := dismantling
  obtain ⟨bridge, compliant, random, generator, hardware, suite⟩ := rest
  cases suite <;> cases hardware <;> cases generator <;> cases random <;> cases bridge <;> rfl

theorem reset_of_current {s : Process ω} {number : Nat} (current : s.current = some number) :
    (Factory.reset s).2 =
      (((subsystems? s number).forM destroy : StateM (Process ω) PUnit)
        (detach number (tellHandles number s).2)).2 := by
  have changed : ∀ (change : Process ω → Process ω) (t : Process ω),
      (modify change : StateM (Process ω) PUnit) t = (⟨⟩, change t) := fun _ _ => rfl
  rw [reset_tells]
  simp only [tellHandles, shutDown, current, bind, StateT.bind, get, getThe, MonadStateOf.get,
    StateT.get, changed, pure]
  by_cases held : 0 < (s.instances[number]?.map Instance.handles).getD 0
  · simp only [held, if_true]
    rfl
  · simp only [held, if_false]
    rfl

theorem after_wholeReset [Memory ω] (idle : t.teardown = none) :
    after wholeReset t = t.onProcess Factory.reset := by
  obtain ⟨process, products, flights, teardown⟩ := t
  obtain rfl := idle
  cases current : process.current with
  | none =>
    have waits : (Move.reset (ω := ω)).run ⟨process, products, flights, none⟩ =
        ⟨process, products, flights, none⟩ := by
      simp only [Move.run, current]
    rw [wholeReset, after_cons, waits, onProcess, reset_of_none current]
    rfl
  | some number =>
    have enters : (Move.reset (ω := ω)).run ⟨process, products, flights, none⟩ =
        ⟨(tellHandles number process).2, products, flights, some (.entered number)⟩ := by
      simp only [Move.run, current]
      rfl
    rw [wholeReset, after_cons, enters, List.replicate_succ, after_cons,
      after_takeDown number _ rfl, onProcess, onProcess, reset_of_current current,
      (alike_tellHandles number process).owned]
    cases subsystems? (tellHandles number process).2 number with
    | none => rfl
    | some owned => rfl

end Traffic

/-- The product that an operation is called on. -/
def Use.product : Use → Made
  | hash product _ _ _ | hashStart product _ | hashUpdate product _ _ | hashFinish product _ _ =>
    .hash product
  | mac product _ _ _ _ _ => .mac product
  | generateKey product _ _ _ | sign product _ _ _ _ | verify product _ _ _ _ => .scheme product
  | random product _ => .random product

namespace Traffic

variable {t : Traffic ω}

/-- Whether a product with these needs was issued. -/
def Issued (t : Traffic ω) (need : Need) : Prop :=
  ∃ product : Nat, (t.products[product]?.bind fun issued => issued.2.need?) = some need

/-- What happens to the process is done by moves, one after another. -/
def Achieves [Memory ω] (t : Traffic ω) (s : Process ω) : Prop :=
  ∃ moves, after moves t = { t with process := s }

theorem achieves_self [Memory ω] (t : Traffic ω) : t.Achieves t.process :=
  ⟨[], rfl⟩

theorem achieves_during [Memory ω] {α : Type} (source : Product.Source) (operation : Bool → α)
    (issued : ∀ place, source.suite = some place → t.Issued (.suite place)) :
    t.Achieves (source.during operation t.process).2 := by
  unfold Product.Source.during Product.Source.acquire Product.Source.release
  cases needs : source.suite with
  | none => exact t.achieves_self
  | some place =>
    obtain ⟨product, found⟩ := issued place needs
    have begun := run_begin found
    rcases acquireSuite?_cases t.process place with failed | ⟨shared, _, _, acquired⟩
    · refine ⟨[.begin product], ?_⟩
      rw [Need.acquire?_suite, failed] at begun
      simp only [bind_apply, failed]
      exact begun
    · refine ⟨[.begin product, .finish 0], ?_⟩
      rw [Need.acquire?_suite, acquired] at begun
      simp only [bind_apply, acquired]
      change (Move.finish 0).run ((Move.begin product).run t) = _
      rw [begun]
      rfl

theorem achieves_operate [Memory ω] {need : Need} (count : Nat) (idle : t.teardown = none)
    (issued : t.Issued need) : t.Achieves (need.operate count t.process).2 := by
  obtain ⟨product, found⟩ := issued
  have begun := run_begin found
  unfold Need.operate
  rw [bind_apply]
  generalize need.acquire? t.process = acquired at *
  obtain ⟨hold?, process⟩ := acquired
  cases hold? with
  | none => exact ⟨[.begin product], begun⟩
  | some hold =>
    have asked : after [.begin product, .ask 0 count] t =
        { t with process := (hold.ask count process).2, flights := hold :: t.flights } := by
      rw [after_cons, begun]
      rfl
    dsimp only
    rw [bind_apply]
    generalize hold.ask count process = reply at *
    obtain ⟨resets, process⟩ := reply
    cases resets with
    | false =>
      refine ⟨[.begin product, .ask 0 count] ++ [.finish 0], ?_⟩
      rw [after_append, asked]
      rfl
    | true =>
      refine ⟨[.begin product, .ask 0 count] ++ (wholeReset ++ [.resume 0, .finish 0]), ?_⟩
      rw [after_append, asked, after_append, after_wholeReset (by exact idle)]
      rfl

end Traffic

theorem suiteKey_operates (place : Nat) (s : Process ω) :
    (Product.Scheme.suiteKey place s).2 = ((Need.suite place).operate 0 s).2 := by
  unfold Product.Scheme.suiteKey Need.operate
  rw [bind_apply, bind_apply, Need.acquire?_suite]
  generalize acquireSuite? place s = acquired
  obtain ⟨held?, process⟩ := acquired
  cases held? with
  | none => rfl
  | some held =>
    unfold Product.Scheme.requestKey
    simp only [Option.map_some, bind_apply, Hold.ask_suite]
    unfold Hold.conclude
    split <;> rfl

theorem generate_operates (product : Product.Random) (count : Nat) (s : Process ω) :
    (product.generate count s).2 = ((Need.generator product.generator).operate count s).2 := by
  unfold Product.Random.generate Need.operate
  rw [bind_apply, bind_apply, Need.acquire?_generator]
  generalize acquireGenerator? product.generator s = acquired
  obtain ⟨shared?, process⟩ := acquired
  cases shared? with
  | none => rfl
  | some shared =>
    unfold Product.Random.request
    simp only [Option.map_some, bind_apply, Hold.ask_generator]
    unfold Hold.conclude
    split <;> rfl

/-- Every operation on a product is made of moves: it begins, asks for what it needs, and ends. -/
theorem Traffic.achieves_use [Memory ω] {t : Traffic ω} (use : Use) (idle : t.teardown = none)
    (issued : ∀ need, use.product.need? = some need → t.Issued need) :
    t.Achieves (use.run t.process).2 := by
  have digests : ∀ {α : Type} (source : Product.Source) (operation : Bool → α),
      (use.product.need? = source.suite.map .suite) →
        t.Achieves (source.during operation t.process).2 := by
    intro α source operation same
    refine achieves_during source operation fun place needs => issued _ ?_
    rw [same, needs]
    rfl
  have signs : ∀ {α : Type} (scheme : Product.Scheme) (operation : KeyOperation)
      (run : Option Digest → Option α), use.product = .scheme scheme →
        t.Achieves (scheme.withDigest operation run t.process).2 := by
    intro α scheme operation run same
    cases scheme with
    | dh | ecdh | eddsa => exact t.achieves_self
    | gost source => exact digests source _ (congrArg Made.need? same)
    | rsa | dsa | ecdsa => exact achieves_during _ _ nofun
  cases use with
  | hash product response data output =>
    cases output with
    | none => exact t.achieves_self
    | some buffer => exact digests product.source (product.hashWith response data buffer) rfl
  | hashStart product response => exact digests product.source (product.startWith response) rfl
  | hashUpdate product response data =>
    exact digests product.source (product.updateWith response data) rfl
  | hashFinish product response output =>
    cases output with
    | none => exact t.achieves_self
    | some buffer =>
      obtain ⟨kind, source, stream⟩ := product
      cases stream with
      | none => exact t.achieves_self
      | some stream =>
        exact digests source
          (Product.Hash.finishWith ⟨kind, source, some stream⟩ response stream buffer) rfl
  | mac product ciphers response key data output =>
    cases output with
    | none => exact t.achieves_self
    | some buffer =>
      cases product with
      | hmac kind source =>
        change t.Achieves
          (Product.Mac.sign (.hmac kind source) ciphers response key data (some buffer) t.process).2
        unfold Product.Mac.sign
        dsimp only
        split
        · exact t.achieves_self
        · exact digests source (Product.Mac.hmacWith source response key data buffer) rfl
      | cmac family =>
        change t.Achieves
          (Product.Mac.sign (.cmac family) ciphers response key data (some buffer) t.process).2
        unfold Product.Mac.sign
        dsimp only
        cases family.cipher ciphers key <;> exact t.achieves_self
  | generateKey product library seed parameters =>
    cases product with
    | gost source =>
      change t.Achieves
        (Product.Scheme.generateKey (.gost source) library seed parameters t.process).2
      unfold Product.Scheme.generateKey
      dsimp only
      split
      · cases needs : source.suite with
        | none => exact t.achieves_self
        | some place =>
          change t.Achieves (Product.Scheme.suiteKey place t.process).2
          rw [suiteKey_operates]
          refine achieves_operate 0 idle (issued _ ?_)
          change source.suite.map Need.suite = _
          rw [needs]
          rfl
      · exact t.achieves_self
    | _ => exact t.achieves_self
  | sign product library seed key data =>
    exact signs product .signing (library.sign key · data seed) rfl
  | verify product library key data signature =>
    exact signs product .verification (library.verify key · data signature) rfl
  | random product count =>
    change t.Achieves (product.generate count t.process).2
    rw [generate_operates]
    exact achieves_operate count idle (issued _ rfl)

end CryptoProvider.Factory
