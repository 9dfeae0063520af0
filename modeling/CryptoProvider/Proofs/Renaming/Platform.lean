import CryptoProvider.Proofs.Ledger.Releases
import Mathlib.Data.List.GetD

/-!
Two runs side by side. They give out numbers from different places, so what the one does is what the
other does under a renaming of numbers. Each collaborator is asked the same questions in both runs,
and is only required to answer alike in outside worlds that are related.
-/

set_option autoImplicit false

namespace CryptoProvider

open Ledger

/-- From every two states of `before`, two programs end with answers and states of `after`. -/
def Pair {σ α β : Type} (before : σ → σ → Prop) (first : StateM σ α) (second : StateM σ β)
    (after : α → β → σ → σ → Prop) : Prop :=
  ∀ s t, before s t → after (first s).1 (second t).1 (first s).2 (second t).2

namespace Pair

variable {σ α β γ δ : Type} {before : σ → σ → Prop}

theorem pure {after : α → β → σ → σ → Prop} {value : α} {other : β}
    (holds : ∀ s t, before s t → after value other s t) :
    Pair before (Pure.pure value) (Pure.pure other) after :=
  holds

theorem bind {first : StateM σ α} {second : StateM σ β} {rest : α → StateM σ γ}
    {other : β → StateM σ δ} {between : α → β → σ → σ → Prop} {after : γ → δ → σ → σ → Prop}
    (start : Pair before first second between)
    (next : ∀ a b, Pair (between a b) (rest a) (other b) after) :
    Pair before (first >>= rest) (second >>= other) after :=
  fun s t holds => next (first s).1 (second t).1 (first s).2 (second t).2 (start s t holds)

/-- As `bind`, where the answer of the second program is determined by that of the first. -/
theorem bind_map {first : StateM σ α} {second : StateM σ β} {rest : α → StateM σ γ}
    {other : β → StateM σ δ} {image : α → β} {between : α → σ → σ → Prop}
    {after : γ → δ → σ → σ → Prop}
    (start : Pair before first second fun a b s t => b = image a ∧ between a s t)
    (next : ∀ a, Pair (between a) (rest a) (other (image a)) after) :
    Pair before (first >>= rest) (second >>= other) after := by
  refine bind start fun a b => ?_
  rintro s t ⟨rfl, holds⟩
  exact next a s t holds

theorem weaken {first : StateM σ α} {second : StateM σ β} {between after : α → β → σ → σ → Prop}
    (paired : Pair before first second between)
    (implies : ∀ a b s t, between a b s t → after a b s t) : Pair before first second after :=
  fun s t holds => implies _ _ _ _ (paired s t holds)

theorem strengthen {other : σ → σ → Prop} {first : StateM σ α} {second : StateM σ β}
    {after : α → β → σ → σ → Prop} (paired : Pair other first second after)
    (implies : ∀ s t, before s t → other s t) : Pair before first second after :=
  fun s t holds => paired s t (implies s t holds)

theorem given {fact : Prop} {first : StateM σ α} {second : StateM σ β}
    {after : α → β → σ → σ → Prop} (paired : fact → Pair before first second after) :
    Pair (fun s t => fact ∧ before s t) first second after :=
  fun s t holds => paired holds.1 s t holds.2

theorem exists_intro {ι : Type} {choice : ι → σ → σ → Prop} {first : StateM σ α}
    {second : StateM σ β} {after : α → β → σ → σ → Prop}
    (paired : ∀ i, Pair (choice i) first second after) :
    Pair (fun s t => ∃ i, choice i s t) first second after :=
  fun s t ⟨i, holds⟩ => paired i s t holds

theorem get : Pair before MonadState.get MonadState.get fun a b s t => before a b ∧ before s t :=
  fun _ _ holds => ⟨holds, holds⟩

/-- Two programs that turn the same way. -/
theorem branch {first yes : StateM σ α} {second other : StateM σ β} {after : α → β → σ → σ → Prop}
    {condition same : Prop} [Decidable condition] [Decidable same] (alike : condition ↔ same)
    (pass : condition → Pair before first second after)
    (fail : ¬ condition → Pair before yes other after) :
    Pair before (if condition then first else yes) (if same then second else other) after := by
  by_cases holds : condition
  · rw [if_pos holds, if_pos (alike.mp holds)]
    exact pass holds
  · rw [if_neg holds, if_neg (mt alike.mpr holds)]
    exact fail holds

theorem ite {first yes : StateM σ α} {second other : StateM σ β} {after : α → β → σ → σ → Prop}
    {condition : Prop} [Decidable condition] (pass : condition → Pair before first second after)
    (fail : ¬ condition → Pair before yes other after) :
    Pair before (if condition then first else yes) (if condition then second else other) after :=
  branch Iff.rfl pass fail

end Pair

/-- In related worlds two programs answer the same, and they leave related worlds behind. -/
def Agree {ω α : Type} (worlds : ω → ω → Prop) (first second : StateM ω α) : Prop :=
  Pair worlds first second fun a b v w => b = a ∧ worlds v w

theorem Agree.eq {ω α : Type} (program : StateM ω α) : Agree Eq program program := by
  rintro v _ rfl
  exact ⟨rfl, rfl⟩

theorem Agree.pure {ω α : Type} {worlds : ω → ω → Prop} (value : α) :
    Agree worlds (Pure.pure value) (Pure.pure value) :=
  Pair.pure fun _ _ related => ⟨rfl, related⟩

/-- In related worlds the same requests for memory are granted. -/
def Memory.Steady {ω : Type} [Memory ω] (worlds : ω → ω → Prop) : Prop :=
  ∀ size, Agree worlds (Memory.grants size) (Memory.grants size)

namespace Memory.Steady

variable {ω : Type} [Memory ω] {worlds : ω → ω → Prop} (steady : Memory.Steady worlds)

theorem eq : Memory.Steady (Eq : ω → ω → Prop) :=
  fun _ => .eq _

include steady

theorem request (size alignment : Nat) :
    Agree worlds (Memory.request size alignment) (Memory.request size alignment) :=
  Pair.ite (fun _ => Agree.pure false) fun _ => steady size

theorem buffer (size : Nat) :
    Agree worlds (Buffer.available size) (Buffer.available size) :=
  Pair.ite (fun _ => Agree.pure false) fun _ => steady.request _ _

theorem pool (size : Nat) :
    Agree worlds (Locking.Pool.available size) (Locking.Pool.available size) :=
  Pair.ite (fun _ => Agree.pure true) fun _ => steady.request _ _

end Memory.Steady

section

variable (naming : Nat → Nat)

def EngineRef.rename (engine : EngineRef) : EngineRef :=
  { engine with number := naming engine.number }

def CommandContext.rename (context : CommandContext) : CommandContext :=
  { context with number := naming context.number, transport := naming context.transport }

/-- A call about renamed things. -/
def Call.rename : Call → Call
  | .moduleOpened module path => .moduleOpened (naming module) path
  | .moduleMissed path => .moduleMissed path
  | .moduleClosed module path => .moduleClosed (naming module) path
  | .transportInfo module plugin => .transportInfo (naming module) plugin
  | .transportSize module plugin config status =>
    .transportSize (naming module) plugin config status
  | .transportStart module plugin context config size zeroed status =>
    .transportStart (naming module) plugin (naming context) config size zeroed status
  | .transportFinalize plugin context magic loaded =>
    .transportFinalize plugin (naming context) magic loaded
  | .commandSize maximum size => .commandSize maximum size
  | .commandStart context size zeroed transport abi status =>
    .commandStart (naming context) size zeroed (naming transport) abi status
  | .commandTransport context status nested =>
    .commandTransport (naming context) status (nested.map naming)
  | .commandFinalize context => .commandFinalize (naming context)
  | .engineLoad flags => .engineLoad flags
  | .engineFind id found => .engineFind id (found.map (EngineRef.rename naming))
  | .engineStart engine done => .engineStart (engine.rename naming) done
  | .engineSetDefault engine methods => .engineSetDefault (engine.rename naming) methods
  | .engineDigest engine algorithm => .engineDigest (engine.rename naming) algorithm
  | .engineRegisterKeys engine => .engineRegisterKeys (engine.rename naming)
  | .engineControl engine command argument =>
    .engineControl (engine.rename naming) command argument
  | .engineFinish engine => .engineFinish (engine.rename naming)
  | .engineFree engine => .engineFree (engine.rename naming)
  | .engineKey engine algorithm parameters =>
    .engineKey (engine.rename naming) algorithm parameters
  | .engineKeyResumes engine => .engineKeyResumes (engine.rename naming)
  | .complianceQuery enabled => .complianceQuery enabled
  | .complianceEnable done => .complianceEnable done
  | .complianceReseed => .complianceReseed
  | .lockCount registry count => .lockCount registry count
  | .callbackSet registry callback => .callbackSet registry callback
  | .foreignCallback owner mode index line => .foreignCallback owner mode index line
  | .generatorCreate generator => .generatorCreate (generator.map naming)
  | .generate generator count => .generate (naming generator) count
  | .generateResumes generator => .generateResumes (naming generator)
  | .generatorDrop generator => .generatorDrop (naming generator)

def Change.rename : Change → Change
  | .transport module => .transport (module.map naming)
  | .pool number => .pool (number.map naming)

def Event.rename : Event → Event
  | .call reported made => .call reported (made.rename naming)
  | .change made => .change (made.rename naming)
  | .notice given => .notice given

end

/-- The numbers of a run that gives out `second` where another gives out `first`. -/
def renumber (first second number : Nat) : Nat :=
  if number < first then number else number - first + second

theorem renumber_of_lt {first second number : Nat} (issued : number < first) :
    renumber first second number = number :=
  if_pos issued

theorem renumber_ahead (first second ahead : Nat) :
    renumber first second (first + ahead) = second + ahead := by
  unfold renumber
  split <;> omega

/-- How two runs are compared: by a renaming of numbers, with outside worlds that are related, and
as far as a view of events tells them apart. -/
structure Comparison (ω : Type) where
  naming : Nat → Nat
  worlds : ω → ω → Prop
  view : Event → Event

namespace Locking

/-- A registry, whatever number of locks its library asks for. -/
def Registry.binding (registry : Registry) : Registry :=
  { registry with lockCount := 0 }

theorem eq_of_binding {registry other : Registry} (binding : registry.binding = other.binding)
    (lockCount : registry.lockCount = other.lockCount) : registry = other := by
  obtain ⟨_, _, _, _⟩ := registry
  obtain ⟨_, _, _, _⟩ := other
  simp_all [Registry.binding]

theorem binding_getD {registries others : List Registry}
    (same : registries.map (·.binding) = others.map (·.binding)) (number : Nat) :
    (registries.getD number ⟨false, true, 0, none⟩).binding =
      (others.getD number ⟨false, true, 0, none⟩).binding := by
  rw [← List.getD_map _ _ Registry.binding, ← List.getD_map _ _ Registry.binding]
  exact congrArg (List.getD · number _) same

theorem bindings_modify (registries : List Registry) (number : Nat) (callback : Option Callback) :
    (registries.modify number fun r => { r with callback }).map (·.binding) =
      (registries.map (·.binding)).modify number fun r => { r with callback } := by
  apply List.ext_getElem?
  intro place
  simp only [List.getElem?_map, List.getElem?_modify]
  cases registries[place]? with
  | none => rfl
  | some registry => by_cases here : number = place <;> simp [here, Registry.binding]

end Locking

/-- What a loaded transport is, whatever number its module has. -/
def Transport.Loaded.content {ω : Type} (loaded : Transport.Loaded ω) :
    Transport.Loaded ω :=
  { loaded with module := 0 }

/-- What two runs start from: the events before them, and the published pools. -/
structure Outset where
  first : List Event
  second : List Event
  firstPool : Option Locking.Published
  secondPool : Option Locking.Published

variable {ω : Type}

/-- Two runs on their way: the same was done in both, up to the renaming. -/
structure Parallel (c : Comparison ω) (outset : Outset) (s t : Platform ω) : Prop where
  worlds : c.worlds s.outside t.outside
  fresh : ∀ ahead, c.naming (s.next + ahead) = t.next + ahead
  transport : s.transport.map (·.content) = t.transport.map (·.content)
  bindings : s.registries.map (·.binding) = t.registries.map (·.binding)
  firstPool : s.pool = outset.firstPool
  secondPool : t.pool = outset.secondPool
  events : ∃ made others, s.events = outset.first ++ made ∧ t.events = outset.second ++ others ∧
    made.map (fun event => c.view (event.rename c.naming)) = others.map c.view

namespace Parallel

variable {c : Comparison ω} {outset : Outset}

-- Where two runs begin, nothing was done yet.
theorem start {s t : Platform ω} (worlds : c.worlds s.outside t.outside)
    (fresh : ∀ ahead, c.naming (s.next + ahead) = t.next + ahead)
    (transport : s.transport.map (·.content) = t.transport.map (·.content))
    (bindings : s.registries.map (·.binding) = t.registries.map (·.binding)) :
    Parallel c ⟨s.events, t.events, s.pool, t.pool⟩ s t :=
  ⟨worlds, fresh, transport, bindings, rfl, rfl, [], [], (List.append_nil _).symm,
    (List.append_nil _).symm, rfl⟩

theorem occupied {s t : Platform ω} (parallel : Parallel c outset s t) :
    s.transport.isSome = t.transport.isSome := by
  have same := congrArg Option.isSome parallel.transport
  simpa using same

theorem binding {s t : Platform ω} (parallel : Parallel c outset s t) (number : Nat) :
    (s.registry number).binding = (t.registry number).binding :=
  Locking.binding_getD parallel.bindings number

-- The same happens in both runs.
theorem push {s t : Platform ω} (parallel : Parallel c outset s t) {event other : Event}
    (same : c.view (event.rename c.naming) = c.view other) :
    Parallel c outset { s with trace := event :: s.trace }
      { t with trace := other :: t.trace } where
  worlds := parallel.worlds
  fresh := parallel.fresh
  transport := parallel.transport
  bindings := parallel.bindings
  firstPool := parallel.firstPool
  secondPool := parallel.secondPool
  events := by
    obtain ⟨made, others, first, second, alike⟩ := parallel.events
    refine ⟨made ++ [event], others ++ [other], ?_, ?_, ?_⟩
    · rw [← List.append_assoc, ← first]
      exact List.reverse_cons
    · rw [← List.append_assoc, ← second]
      exact List.reverse_cons
    · simp [alike, same]

/-- Collaborators that agree give one answer, which is one that the first can give. -/
theorem answer {α : Type} {first second : StateM ω α} (agree : Agree c.worlds first second) :
    Pair (Parallel c outset) (Platform.consult first) (Platform.consult second) fun a b s t =>
      b = a ∧ (∃ world, (first world).1 = a) ∧ Parallel c outset s t := by
  intro s t parallel
  obtain ⟨same, related⟩ := agree s.outside t.outside parallel.worlds
  exact ⟨same, ⟨s.outside, rfl⟩, { parallel with worlds := related }⟩

theorem consult {α : Type} {first second : StateM ω α} (agree : Agree c.worlds first second) :
    Pair (Parallel c outset) (Platform.consult first) (Platform.consult second) fun a b s t =>
      b = a ∧ Parallel c outset s t :=
  (answer agree).weaken fun _ _ _ _ ⟨same, _, parallel⟩ => ⟨same, parallel⟩

theorem allocate [Memory ω] (memory : Memory.Steady c.worlds) (size : Nat) :
    Pair (Parallel c outset) (Buffer.allocate size) (Buffer.allocate size) fun made other s t =>
      other = made ∧ Parallel c outset s t :=
  Pair.bind_map (consult (memory.buffer size)) fun _ => .pure fun _ _ parallel => ⟨rfl, parallel⟩

-- Collaborators whose answers are alike only.
theorem compare {α : Type} {first second : StateM ω α} {alike : α → α → Prop}
    (answers : Pair c.worlds first second fun a b v w => alike a b ∧ c.worlds v w) :
    Pair (Parallel c outset) (Platform.consult first) (Platform.consult second) fun a b s t =>
      alike a b ∧ Parallel c outset s t := by
  intro s t parallel
  obtain ⟨holds, related⟩ := answers s.outside t.outside parallel.worlds
  exact ⟨holds, { parallel with worlds := related }⟩

theorem record {reported : Bool} {call other : Call}
    (same : c.view (.call reported (call.rename c.naming)) = c.view (.call reported other)) :
    Pair (Parallel c outset) (Platform.record reported call) (Platform.record reported other)
      fun _ _ => Parallel c outset :=
  fun _ _ parallel => parallel.push same

theorem note {notice : Notice} :
    Pair (Parallel c outset) (Platform.note notice) (Platform.note notice)
      fun _ _ => Parallel c outset :=
  fun _ _ parallel => parallel.push rfl

theorem fresh_number :
    Pair (Parallel c outset) Platform.fresh Platform.fresh fun a b s t =>
      b = c.naming a ∧ Parallel c outset s t := by
  intro s t parallel
  refine ⟨(parallel.fresh 0).symm, { parallel with fresh := fun ahead => ?_ }⟩
  have next := parallel.fresh (ahead + 1)
  rw [Nat.add_comm ahead 1, ← Nat.add_assoc, ← Nat.add_assoc] at next
  exact next

theorem setTransport {loaded other : Option (Transport.Loaded ω)}
    (content : loaded.map (·.content) = other.map (·.content))
    (module : other.map (·.module) = (loaded.map (·.module)).map c.naming) :
    Pair (Parallel c outset) (Platform.setTransport loaded) (Platform.setTransport other)
      fun _ _ => Parallel c outset := by
  intro s t parallel
  have same : c.view (Event.rename c.naming (.change (.transport (loaded.map (·.module))))) =
      c.view (.change (.transport (other.map (·.module)))) := by
    rw [module]
    rfl
  have pushed := parallel.push same
  exact { pushed with transport := content }

theorem setPool {pool other : Option Locking.Published}
    (number : other.map (·.number) = (pool.map (·.number)).map c.naming) :
    Pair (Parallel c outset) (Platform.setPool pool) (Platform.setPool other)
      fun _ _ => Parallel c { outset with firstPool := pool, secondPool := other } := by
  intro s t parallel
  have same : c.view (Event.rename c.naming (.change (.pool (pool.map (·.number))))) =
      c.view (.change (.pool (other.map (·.number)))) := by
    rw [number]
    rfl
  have pushed := parallel.push same
  exact { pushed with firstPool := rfl, secondPool := rfl }

theorem writeCallback {number : Nat} {callback : Option Locking.Callback} :
    Pair (Parallel c outset) (Platform.writeCallback number callback)
      (Platform.writeCallback number callback) fun _ _ => Parallel c outset := by
  intro s t parallel
  refine { parallel with bindings := ?_ }
  change (s.registries.modify number fun r => { r with callback }).map (·.binding) =
    (t.registries.modify number fun r => { r with callback }).map (·.binding)
  rw [Locking.bindings_modify, Locking.bindings_modify, parallel.bindings]

end Parallel

/-- Two runs are parallel, whatever pools are published in them. -/
def Beside (c : Comparison ω) (first second : List Event) (s t : Platform ω) : Prop :=
  ∃ firstPool secondPool, Parallel c ⟨first, second, firstPool, secondPool⟩ s t

namespace Beside

variable {c : Comparison ω} {first second : List Event} {α β : Type}
  {program : StateM (Platform ω) α} {other : StateM (Platform ω) β}

theorem lift {answers : α → β → Prop}
    (paired : ∀ outset, Pair (Parallel c outset) program other fun a b s t =>
      answers a b ∧ Parallel c outset s t) :
    Pair (Beside c first second) program other fun a b s t =>
      answers a b ∧ Beside c first second s t := by
  refine Pair.exists_intro fun firstPool => Pair.exists_intro fun secondPool => ?_
  exact (paired _).weaken fun _ _ _ _ ⟨same, parallel⟩ => ⟨same, firstPool, secondPool, parallel⟩

theorem record {reported : Bool} {call other : Call}
    (same : c.view (.call reported (call.rename c.naming)) = c.view (.call reported other)) :
    Pair (Beside c first second) (Platform.record reported call) (Platform.record reported other)
      fun _ _ => Beside c first second :=
  fun _ _ ⟨_, _, parallel⟩ => ⟨_, _, parallel.push same⟩

theorem note {notice : Notice} :
    Pair (Beside c first second) (Platform.note notice) (Platform.note notice) fun _ _ =>
      Beside c first second :=
  fun _ _ ⟨_, _, parallel⟩ => ⟨_, _, parallel.push rfl⟩

end Beside

end CryptoProvider
