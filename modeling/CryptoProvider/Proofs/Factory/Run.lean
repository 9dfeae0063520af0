import CryptoProvider.Proofs.Factory.Products

/-!
Runs of the whole process. A step is one call of the library, by any caller and with any
collaborators, or something that happens outside of it. Steps of others on the shared slots are
marked: some results hold only as long as there are none.
-/

set_option autoImplicit false

namespace CryptoProvider

open Ledger

variable {ω : Type}

/-- A cryptographic library that the process links, and who installed a callback before. -/
structure Locking.Host where
  reported : Bool
  threadSafe : Bool
  lockCount : Int
  owner : Option Nat
  deriving DecidableEq, Repr

def Locking.Host.registry (host : Locking.Host) : Locking.Registry :=
  ⟨host.reported, host.threadSafe, host.lockCount, host.owner.map .foreign⟩

/-- A process in which nothing has happened yet, with the libraries that it links. -/
def Process.launch (outside : ω) (hosts : List Locking.Host) : Process ω :=
  { Process.clean outside with registries := hosts.map Locking.Host.registry }

namespace Factory

inductive Use where
  | hash (product : Product.Hash) (response : Product.Response) (data : Bytes)
      (output : Option Bytes)
  | hashStart (product : Product.Hash) (response : Product.Response)
  | hashUpdate (product : Product.Hash) (response : Product.Response) (data : Bytes)
  | hashFinish (product : Product.Hash) (response : Product.Response) (output : Option Bytes)
  | mac (product : Product.Mac) (ciphers : CipherSuite) (response : Product.Response)
      (key data : Bytes) (output : Option Bytes)
  | generateKey (product : Product.Scheme) (library : Key.Library) (seed : Nat)
      (parameters : Product.KeyParameters)
  | sign (product : Product.Scheme) (library : Key.Library) (seed : Nat) (key : Key.Private)
      (data : Bytes)
  | verify (product : Product.Scheme) (library : Key.Library) (key : Key.Public)
      (data signature : Bytes)
  | random (product : Product.Random) (count : Nat)

def Use.run : Use → StateM (Process ω) Unit
  | .hash product response data output => discard (product.hash response data output)
  | .hashStart product response => discard (product.start response)
  | .hashUpdate product response data => discard (product.update response data)
  | .hashFinish product response output => discard (product.finish response output)
  | .mac product ciphers response key data output =>
    discard (product.sign ciphers response key data output)
  | .generateKey product library seed parameters =>
    discard (product.generateKey library seed parameters)
  | .sign product library seed key data => discard (product.sign library seed key data)
  | .verify product library key data signature =>
    discard (product.verify library key data signature)
  | .random product count => discard (product.generate count)

inductive Step (ω : Type) where
  /-- A demand, with options that are made when an instance is built. -/
  | demand (options : StateM ω (Options ω))
  | reset
  | cloneHandle (number : Nat)
  | dropHandle (number : Nat)
  | dispatch (number : Nat) (request : Request)
  | use (operation : Use)
  /-- A cryptographic library calls the callback in its slot. -/
  | serve (registry : Nat) (mode index : Int32) (file : Option Bytes) (line : Int32)
  /-- A cryptographic library says from now on that it needs another number of locks. -/
  | lockCount (registry : Nat) (count : Int)
  | outside (act : StateM ω Unit)
  /-- Another user loads a transport, and keeps the context to itself. -/
  | loadTransport (loader : ModuleLoader ω) (name : String) (config : Option String)
  | unloadTransport
  | writeCallback (registry : Nat) (callback : Option Locking.Callback)

namespace Step

/-- Whether a step is one of others on the shared slots. -/
def interferes : Step ω → Bool
  | .loadTransport _ _ _ | .unloadTransport | .writeCallback _ _ => true
  | _ => false

def demands : Step ω → Bool
  | .demand _ => true
  | _ => false

def run [Memory ω] : Step ω → StateM (Process ω) Unit
  | .demand options => discard (Factory.demand (Process.onPlatform (Platform.consult options)))
  | .reset => Factory.reset
  | .cloneHandle number => changeHandles number (· + 1)
  | .dropHandle number => Factory.dropHandle number
  | .dispatch number request => discard (Factory.dispatch number request)
  | .use operation => operation.run
  | .serve registry mode index file line => do
    match ((← get).registry registry).callback with
    | none => pure ()
    | some callback => Process.onPlatform (callback.call mode index file line)
  | .lockCount registry count => Process.onPlatform <| modify fun s =>
      { s with registries := s.registries.modify registry fun r => { r with lockCount := count } }
  | .outside act => Process.onPlatform (Platform.consult act)
  | .loadTransport loader name config =>
    discard (Process.onPlatform (Transport.load loader name config))
  | .unloadTransport => Process.onPlatform Transport.unload
  | .writeCallback registry callback =>
    Process.onPlatform (Platform.writeCallback registry callback)

end Step

def after [Memory ω] (steps : List (Step ω)) (s : Process ω) : Process ω :=
  steps.foldl (fun s step => (step.run s).2) s

theorem after_append [Memory ω] (first second : List (Step ω)) (s : Process ω) :
    after (first ++ second) s = after second (after first s) :=
  List.foldl_append

theorem after_induction [Memory ω] (invariant : Process ω → Prop) {steps : List (Step ω)}
    (keeps : ∀ step ∈ steps, ∀ s, invariant s → invariant (step.run s).2) {s : Process ω}
    (holds : invariant s) : invariant (after steps s) := by
  induction steps generalizing s with
  | nil => exact holds
  | cons step steps ih =>
    exact ih (fun other member => keeps other (List.mem_cons_of_mem _ member))
      (keeps step List.mem_cons_self s holds)

/-- Custody between two steps: nothing is in hand but a frame that no step touches. -/
def resting (frame : List Entry) (s : Process ω) : Custody ω :=
  ⟨s.current, live? s, s.instances.length, [], [], frame⟩

def Steady (alone : Bool) (frame : List Entry) (s : Process ω) : Prop :=
  Orderly alone (resting frame s) s

variable {alone builds : Bool} {frame : List Entry}

theorem Orderly.steady {hand : Custody ω} {s : Process ω} (orderly : Orderly alone hand s)
    (suites : hand.suites = []) (generators : hand.generators = [])
    (entries : hand.entries = frame) : Steady alone frame s := by
  obtain ⟨current, owned, instances, _, _, _⟩ := hand
  obtain rfl := suites
  obtain rfl := generators
  obtain rfl := entries
  obtain rfl := orderly.standing.current
  obtain rfl := orderly.standing.owned
  obtain rfl := orderly.standing.instances
  exact orderly

/-- Instances are never forgotten, and only a new one becomes current, if one may be built. -/
structure Succeeds (builds : Bool) (s next : Process ω) : Prop where
  grows : s.instances.length ≤ next.instances.length
  current : ∀ number, next.current = some number →
    s.current = some number ∨ builds = true ∧ s.instances.length ≤ number

def Keeps {α : Type} (alone builds : Bool) (program : StateM (Process ω) α) : Prop :=
  ∀ frame s, Steady alone frame s →
    Steady alone frame (program s).2 ∧ Succeeds builds s (program s).2

theorem Keeps.of_same {α : Type} {program : StateM (Process ω) α}
    (same : ∀ hand, Ensures (Orderly alone hand) program fun _ => Orderly alone hand) :
    Keeps alone builds program := by
  intro frame s steady
  have orderly := same (resting frame s) s steady
  refine ⟨orderly.steady rfl rfl rfl, Nat.le_of_eq orderly.standing.instances.symm, ?_⟩
  intro number current
  rw [← current]
  exact .inl orderly.standing.current.symm

theorem Keeps.of_keepsOrder {α : Type} {program : StateM (Process ω) α}
    (keeps : KeepsOrder program) : Keeps alone builds program := by
  intro frame s steady
  obtain ⟨after, mayReset, orderly⟩ := keeps alone (resting frame s) s steady
  cases mayReset with
  | kept =>
    refine ⟨orderly.steady rfl rfl rfl, Nat.le_of_eq orderly.standing.instances.symm, ?_⟩
    intro number current
    rw [← current]
    exact .inl orderly.standing.current.symm
  | reset =>
    refine ⟨orderly.steady rfl rfl rfl, Nat.le_of_eq orderly.standing.instances.symm, ?_⟩
    intro number current
    rw [orderly.standing.current] at current
    cases current

theorem Keeps.discard {α : Type} {program : StateM (Process ω) α}
    (keeps : Keeps alone builds program) :
    Keeps alone builds (Functor.discard program) :=
  keeps

theorem keeps_use (operation : Use) : Keeps alone builds (operation.run (ω := ω)) := by
  cases operation with
  | hash product response data output =>
    exact (Keeps.of_keepsOrder (product.keepsOrder_hash response data output)).discard
  | hashStart product response =>
    exact (Keeps.of_keepsOrder (product.keepsOrder_start response)).discard
  | hashUpdate product response data =>
    exact (Keeps.of_keepsOrder (product.keepsOrder_update response data)).discard
  | hashFinish product response output =>
    exact (Keeps.of_keepsOrder (product.keepsOrder_finish response output)).discard
  | mac product ciphers response key data output =>
    exact (Keeps.of_keepsOrder (product.keepsOrder_sign ciphers response key data output)).discard
  | generateKey product library seed parameters =>
    exact (Keeps.of_keepsOrder (product.keepsOrder_generateKey library seed parameters)).discard
  | sign product library seed key data =>
    exact (Keeps.of_keepsOrder (product.keepsOrder_withDigest _ _)).discard
  | verify product library key data signature =>
    exact (Keeps.of_keepsOrder (product.keepsOrder_withDigest _ _)).discard
  | random product count => exact (Keeps.of_keepsOrder (product.keepsOrder_generate count)).discard

theorem keeps_reset : Keeps alone builds (reset (ω := ω)) :=
  Keeps.of_keepsOrder fun _ _ =>
    Ensures.weaken orderly_reset fun _ _ orderly => ⟨_, .reset, orderly⟩

theorem demand_eq [Memory ω] (options : StateM (Process ω) (Options ω)) (s : Process ω) :
    (demand options s).2 =
      match s.current with
      | some number => (changeHandles number (· + 1) s).2
      | none => ((options >>= construct) s).2 := by
  cases current : s.current with
  | some number =>
    simp only [demand, current, bind, StateT.bind, get, getThe, MonadStateOf.get, StateT.get, pure]
    rfl
  | none =>
    simp only [demand, current, bind, StateT.bind, get, getThe, MonadStateOf.get, StateT.get, pure]
    rfl

theorem keeps_demand [Memory ω] (options : StateM ω (Options ω)) :
    Keeps alone true (demand (Process.onPlatform (Platform.consult options))) := by
  intro frame s steady
  rw [demand_eq]
  cases current : s.current with
  | some number => exact Keeps.of_same (fun _ => orderly_changeHandles number _) frame s steady
  | none =>
    have built : Ensures (Orderly alone (resting frame s))
        (Process.onPlatform (Platform.consult options) >>= construct) fun _ next =>
          ∃ owned, Orderly alone ((resting frame s).adopting owned) next := by
      refine Ensures.bind (Orderly.lift rfl fun _ => Sound.consult) fun made => ?_
      exact Ensures.weaken (orderly_construct made current) fun _ _ made => made.2
    obtain ⟨owned, orderly⟩ := built s steady
    refine ⟨orderly.steady rfl rfl rfl, ?_, fun number isCurrent => .inr ⟨rfl, ?_⟩⟩
    · rw [orderly.standing.instances]
      exact Nat.le_succ _
    -- Instances are numbered in the order of construction.
    · have new : some s.instances.length = some number :=
        orderly.standing.current.symm.trans isCurrent
      exact Nat.le_of_eq (Option.some.inj new)

-- An operation of the platform that adds nothing to the books, with what it makes of the slots.
theorem Keeps.of_platform {α : Type} {operation : StateM (Platform ω) α}
    (spec : ∀ rest contents live, Follows alone live contents →
      Ensures (Books rest contents) operation fun _ s =>
        ∃ after, Follows alone live after ∧ Books rest after s) :
    Keeps alone builds (Process.onPlatform operation) := by
  refine Keeps.of_same fun hand s orderly => ?_
  obtain ⟨after, follows, books⟩ :=
    spec _ _ _ orderly.follows s.toPlatform orderly.sound.2
  exact Sound.orderly ⟨orderly.standing.onPlatform _, books⟩ follows

theorem keeps_serve [Memory ω] (registry : Nat) (mode index : Int32) (file : Option Bytes)
    (line : Int32) :
    Keeps alone builds (Step.run (ω := ω) (.serve registry mode index file line)) := by
  intro frame s steady
  have same : (Step.run (ω := ω) (.serve registry mode index file line)) s =
      (match (s.registry registry).callback with
        | none => pure ()
        | some callback => Process.onPlatform (callback.call mode index file line)) s := rfl
  rw [same]
  cases (s.registry registry).callback with
  | none => exact Keeps.of_same (fun _ => Ensures.pure fun _ orderly => orderly) frame s steady
  | some callback =>
    refine Keeps.of_platform (fun rest contents live follows => ?_) frame s steady
    cases callback with
    | bridge =>
      refine Ensures.weaken (Locking.books_serve mode index file line) fun _ s served => ?_
      obtain ⟨pool, shared, books⟩ := served
      have still : Follows alone live { contents with pool } :=
        follows.of_same shared (fun _ => rfl) (fun _ => rfl) fun _ _ => rfl
      exact ⟨_, still, books⟩
    | foreign owner =>
      exact Ensures.weaken (Books.record_none rfl) fun _ _ books => ⟨contents, follows, books⟩

-- One step, by its kind. Only the last three need that the factory is not alone.
theorem keeps_step [Memory ω] (step : Step ω) (allowed : alone = true → step.interferes = false)
    (building : step.demands = true → builds = true) : Keeps alone builds step.run := by
  cases step with
  | demand options =>
    obtain rfl := building rfl
    exact (keeps_demand options).discard
  | reset => exact keeps_reset
  | cloneHandle number => exact Keeps.of_same fun _ => orderly_changeHandles number _
  | dropHandle number => exact Keeps.of_same fun _ => orderly_changeHandles number _
  | dispatch number request =>
    exact (Keeps.of_same fun _ => orderly_dispatch number request).discard
  | use operation => exact keeps_use operation
  | serve registry mode index file line => exact keeps_serve registry mode index file line
  | lockCount registry count =>
    refine Keeps.of_platform fun rest contents live follows => ?_
    have changed : Ensures (Books rest contents)
        (modify fun s : Platform ω =>
          { s with
            registries := s.registries.modify registry fun r => { r with lockCount := count } })
        fun _ => Books rest (contents.setLockCount registry count) :=
      Books.update (fun _ => rfl) (fun _ => rfl) fun s known => known ▸ rfl
    refine Ensures.weaken changed fun _ _ books => ⟨_, ?_, books⟩
    exact follows.of_same rfl (fun _ => (Slots.registry_setLockCount _ _ _).1) (fun _ => rfl)
      fun _ _ => (Slots.registry_setLockCount _ _ _).2
  | outside act =>
    exact Keeps.of_platform fun rest contents live follows =>
      Ensures.weaken Books.consult fun _ _ books => ⟨contents, follows, books⟩
  | loadTransport loader name config =>
    refine Keeps.discard (Keeps.of_platform fun rest contents live follows => ?_)
    refine Ensures.weaken (Transport.books_load loader name config) fun loaded s books => ?_
    cases loaded with
    | error cause => exact ⟨contents, follows, books⟩
    | ok context =>
      obtain ⟨_, filling, books⟩ := books
      -- The context is the other user's to keep or to drop; its module stays open.
      have others : Follows alone live { contents with transport := some filling } :=
        follows.of_same rfl (fun _ => rfl) (fun only => nomatch allowed only) fun _ _ => rfl
      exact ⟨_, others, (books.revise fun _ => Phase.settled_of_contextStarted).discharge⟩
  | unloadTransport =>
    refine Keeps.of_platform fun rest contents live follows => ?_
    refine Ensures.weaken Transport.books_unload fun _ _ books => ⟨_, ?_, books⟩
    exact follows.of_same rfl (fun _ => rfl) (fun only => nomatch allowed only) fun _ _ => rfl
  | writeCallback registry callback =>
    refine Keeps.of_platform fun rest contents live follows => ?_
    refine Ensures.weaken Books.writeCallback fun _ _ books => ⟨_, ?_, books⟩
    exact follows.of_same rfl (fun other => Slots.threadSafe_setCallback registry other callback)
      (fun only => nomatch allowed only) fun only => nomatch allowed only

/-- Every run keeps the process in order, as far as the factory is alone. -/
theorem steady_after [Memory ω] {steps : List (Step ω)}
    (allowed : alone = true → ∀ step ∈ steps, step.interferes = false) {s : Process ω}
    (steady : Steady alone frame s) : Steady alone frame (after steps s) :=
  after_induction (Steady alone frame) (fun step member _ holds =>
    (keeps_step step (fun only => allowed only step member) (fun _ => rfl) frame _ holds).1) steady

theorem Succeeds.trans {first second third : Process ω} (early : Succeeds builds first second)
    (late : Succeeds builds second third) : Succeeds builds first third where
  grows := Nat.le_trans early.grows late.grows
  current number isCurrent := by
    rcases late.current number isCurrent with kept | ⟨built, new⟩
    · exact early.current number kept
    · exact .inr ⟨built, Nat.le_trans early.grows new⟩

theorem succeeds_after [Memory ω] {steps : List (Step ω)} {s : Process ω}
    (steady : Steady false frame s)
    (building : ∀ step ∈ steps, step.demands = true → builds = true) :
    Succeeds builds s (after steps s) := by
  induction steps generalizing s with
  | nil => exact ⟨Nat.le_refl _, fun _ current => .inl current⟩
  | cons step steps ih =>
    obtain ⟨next, succeeds⟩ :=
      keeps_step step (by simp) (building step List.mem_cons_self) frame s steady
    exact succeeds.trans (ih next fun other member =>
      building other (List.mem_cons_of_mem _ member))

theorem callback_launch (outside : ω) (hosts : List Locking.Host) (number : Nat) :
    ((Process.launch outside hosts).registry number).callback ≠ some .bridge := by
  change ((hosts.map Locking.Host.registry).getD number ⟨false, true, 0, none⟩).callback ≠ _
  rw [List.getD_eq_getElem?_getD, List.getElem?_map]
  cases hosts[number]? with
  | none => simp
  | some host => simp [Locking.Host.registry]

theorem steady_launch (outside : ω) (hosts : List Locking.Host) :
    Steady alone [] (Process.launch outside hosts) := by
  have standing : Standing (resting [] (Process.launch outside hosts))
      (Process.launch outside hosts) := by
    refine ⟨⟨?_, ?_⟩, ⟨?_, ?_⟩, ?_, ?_, ?_, rfl, rfl, rfl⟩
    all_goals simp [resting, Process.launch, Process.clean, suiteShelf, generatorShelf, live?,
      subsystems?]
  refine ⟨standing, ?_, ?_⟩
  · exact (Accounts.clean outside).transfer rfl rfl
  · refine ⟨rfl, ?_, fun _ => rfl, fun _ number => ?_⟩
    · intro bridge same
      cases same
    · refine iff_of_false (callback_launch outside hosts number) ?_
      rintro ⟨bridge, same, _⟩
      cases same

/-! A system on which every call succeeds: what a full instance is built from. -/

namespace Willing

def engines : EngineApi Unit where
  reported := true
  loadBuiltin _ := pure true
  find _ := pure true
  start _ := pure true
  setDefault _ _ := pure true
  digest _ _ := pure (some Digest.sha256)
  registerKeys _ := pure true
  control _ _ _ := pure true
  finish _ := pure ()
  free _ := pure ()
  generateKey _ _ _ := pure ⟨false, .error .cryptoLibrary⟩

def exports : NativeModule Unit where
  transport := some
    { label := "plain"
      info := pure (some (.of ⟨2, none, none, none, some fun _ _ _ =>
        pure ⟨0, 64, some (.of ⟨1, 2, some (pure ())⟩)⟩⟩)) }
  command :=
    { contextSize := some fun _ => pure 64
      start := some fun _ _ => pure 0
      nestedTransport := some fun context => pure (0, some context.transport)
      finalize := some fun _ => pure () }

def host : Locking.Host :=
  ⟨true, false, 8, none⟩

def options : Options Unit where
  config :=
    { transport := some ⟨"plain", none⟩
      commandLibrary := "commands"
      hardwareRandom := true
      alternateSuite := some .gost
      compliance := true }
  backends :=
    { registry := 0
      engines
      compliance := ⟨true, pure false, pure true, pure ()⟩
      modules := ⟨true, fun _ => pure (some exports)⟩
      generators := ⟨true, pure (.ok ⟨true, fun _ => pure ⟨false, .ok []⟩⟩)⟩ }

def demand : Step Unit :=
  .demand (pure options)

end Willing

end Factory

end CryptoProvider
