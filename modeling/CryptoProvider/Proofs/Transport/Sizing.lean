import CryptoProvider.Proofs.Transport.Loading
import Mathlib.Data.List.Forall2

/-!
How a transport context gets its size. A start routine is called without a context first, and says
how large one has to be; then memory is asked for a buffer of that size, and only if it is granted
is the routine called again, with that buffer and nothing in it. The size that it stores in the
second call is not looked at.
-/

set_option autoImplicit false

namespace CryptoProvider

open Ledger

variable {ω : Type}

namespace Transport

/-- A call of a start routine: the outside world that it finds, and what it is given. -/
structure StartCall (ω : Type) where
  world : ω
  context : Option (Buffer ω)
  size : Nat
  config : Option String

/-- The calls of start routines among others. -/
def isStart : Call → Bool
  | .transportSize _ _ _ _ | .transportStart _ _ _ _ _ _ _ => true
  | _ => false

namespace StartCall

variable (routine : StartRoutine ω)

def reply (call : StartCall ω) : StartReply ω :=
  (routine call.context call.size call.config call.world).1

/-- The outside world as a call leaves it. -/
def left (call : StartCall ω) : ω :=
  (routine call.context call.size call.config call.world).2

/-- Calls in a row take the outside world from one state to another, and none is left out: each
finds it as the call before has left it, and as memory has if that was asked meanwhile. -/
inductive Row [Memory ω] : ω → List (StartCall ω) → ω → Prop where
  | none (world : ω) : Row world [] world
  | more (call : StartCall ω) {last : ω} {rest : List (StartCall ω)}
      (row : Row (call.left routine) rest last) : Row call.world (call :: rest) last
  | memory (size : Nat) {world last : ω} {calls : List (StartCall ω)}
      (row : Row (Memory.grants size world).2 calls last) : Row world calls last

/-- What the trace shows of a call. -/
def Shows (call : StartCall ω) (shown : Call) : Prop :=
  match call.context with
  | none => ∃ module plugin, shown =
      .transportSize module plugin call.config (call.reply routine).status
  | some buffer => ∃ module plugin number, shown =
      .transportStart module plugin number call.config call.size buffer.isZeroed
        (call.reply routine).status

/-- The two phases. A first call has no context, and says whether and how large one can be had. If
so, and if memory is granted, there is a second, with a zeroed buffer of that size. Both have the
same configuration. -/
structure TwoPhase [Memory ω] (config : Option String) (world : ω) (calls : List (StartCall ω)) :
    Prop where
  atMostTwo : calls.length ≤ 2
  first : calls[0]? = some ⟨world, none, 0, config⟩
  second : ∀ query, calls[0]? = some query →
    let size := (query.reply routine).size
    let memory := Memory.grants size (query.left routine)
    (calls.length = 2 ↔
      (query.reply routine).status = 0 ∧ Buffer.Possible size ∧ memory.1 = true) ∧
    ∀ fill, calls[1]? = some fill → fill = ⟨memory.2, some ⟨size, none⟩, size, query.config⟩

/-- Both calls were made and both succeeded. -/
def Complete (calls : List (StartCall ω)) : Prop :=
  calls.length = 2 ∧ ∀ call ∈ calls, (call.reply routine).status = 0

end StartCall

open StartCall

/-- What a load knows of a context's size once it is through: nothing was asked of a start routine
if none was supplied, and else it was called in two phases. -/
def Sized [Memory ω] (supplied : Option (StartRoutine ω)) (config : Option String)
    (world last : ω) (shown : List Call) (made : Option Nat) : Prop :=
  match supplied with
  | none => last = world ∧ shown = [] ∧ made = none
  | some routine => ∃ calls, Row routine world calls last ∧ TwoPhase routine config world calls ∧
      List.Forall₂ (Shows routine) calls shown ∧ (made.isSome ↔ Complete routine calls) ∧
      ∀ size, made = some size → ∀ query, calls[0]? = some query →
        size = (query.reply routine).size

section

variable [Memory ω] {routine : StartRoutine ω} {config : Option String} {world last : ω}

-- Memory need not be asked for what is impossible.
theorem row_available {size : Nat} {calls : List (StartCall ω)}
    (row : Row routine (Buffer.available size world).2 calls last) :
    Row routine world calls last := by
  by_cases possible : Buffer.Possible size
  · rw [Buffer.available_of_possible possible] at row
    exact .memory size row
  · rw [Buffer.available_of_impossible possible] at row
    exact row

variable {query : StartReply ω} {queried : ω} (module : Nat) (plugin : String)
  (asked : routine none 0 config world = (query, queried))

include asked

-- No buffer can be had, so there is no second call.
theorem sized_once
    (unfit : ¬ (query.status = 0 ∧ (Buffer.available query.size queried).1 = true))
    (row : Row routine queried [] last) :
    Sized (some routine) config world last [.transportSize module plugin config query.status]
      none := by
  let first : StartCall ω := ⟨world, none, 0, config⟩
  have replied : first.reply routine = query := congrArg Prod.fst asked
  have left : first.left routine = queried := congrArg Prod.snd asked
  refine ⟨[first], .more first (left.symm ▸ row), ?_, ?_, ?_, nofun⟩
  · constructor
    · simp
    · rfl
    · rintro _ ⟨⟩
      rw [Buffer.available_iff] at unfit
      exact ⟨iff_of_false nofun (by rwa [replied, left]), nofun⟩
  · exact .cons ⟨module, plugin, by rw [replied]⟩ .nil
  · simp [Complete]

theorem sized_twice (granted : query.status = 0)
    (room : (Buffer.available query.size queried).1 = true) (number : Nat)
    {reply : StartReply ω}
    (answered : routine (some ⟨query.size, none⟩) query.size config
      (Buffer.available query.size queried).2 = (reply, last)) :
    Sized (some routine) config world last
      [.transportSize module plugin config query.status,
        .transportStart module plugin number config query.size true reply.status]
      (if reply.status = 0 then some query.size else none) := by
  let first : StartCall ω := ⟨world, none, 0, config⟩
  have sought : first.reply routine = query := congrArg Prod.fst asked
  have left : first.left routine = queried := congrArg Prod.snd asked
  let second : StartCall ω :=
    ⟨(Buffer.available query.size queried).2, some ⟨query.size, none⟩, query.size, config⟩
  have replied : second.reply routine = reply := congrArg Prod.fst answered
  have ended : second.left routine = last := congrArg Prod.snd answered
  have possible := Buffer.available_iff.mp room
  refine ⟨[first, second], .more first ?_, ?_, ?_, ?_, ?_⟩
  · rw [left]
    exact row_available (.more second (ended ▸ .none _))
  · constructor
    · simp
    · rfl
    · rintro _ ⟨⟩
      rw [sought, left]
      refine ⟨iff_of_true rfl ⟨granted, possible⟩, ?_⟩
      rintro _ ⟨⟩
      rw [← Buffer.available_of_possible possible.1]
  · exact .cons ⟨module, plugin, by rw [sought]⟩
      (.cons ⟨module, plugin, number, by rw [replied]; rfl⟩ .nil)
  · split
    next started => simp [Complete, sought, replied, granted, started]
    next refused => simp [Complete, sought, replied, granted, refused]
  · rintro size made _ ⟨⟩
    rw [sought]
    split at made
    · exact (Option.some.inj made).symm
    · cases made

end

/-- Opening and closing modules, and filling the slot, is nothing that a start routine is asked. -/
theorem sized_around [Memory ω] {supplied : Option (StartRoutine ω)} {config : Option String}
    {world last : ω}
    {made : Option Nat} {paths : List String} {opened : OpenModule ω} {past acts : List Act}
    {act : Act} {s : Platform ω} (sized : Sized supplied config world last (heard isStart acts) made)
    (silent : heard isStart [act] = [])
    (told : s.acts = past ++ (missing paths ++ (some opened).toList.map (fun opened =>
      .call (.moduleOpened opened.number opened.path))) ++ acts ++ [act]) :
    ∃ acts, Sized supplied config world last (heard isStart acts) made ∧ s.acts = past ++ acts := by
  refine ⟨missing paths ++ [.call (.moduleOpened opened.number opened.path)] ++ acts ++ [act], ?_, ?_⟩
  · rw [heard_append, heard_append, heard_append, heard_missing fun _ => rfl, silent,
      List.append_nil]
    exact sized
  · rw [told, List.append_assoc, List.append_assoc, ← List.append_assoc (missing paths ++ _)]
    rfl

/-- The start routine that a module supplies, if it has a plugin that describes one. -/
def supply (found : NativeModule ω) : StateM ω (Option (StartRoutine ω)) := do
  match found.transport with
  | none => return none
  | some plugin => return (← plugin.info).bind (·.value.start)

/-- The start routine that the transport of a name supplies. -/
def supplied (loader : ModuleLoader ω) (name : String) : StateM ω (Option (StartRoutine ω)) := do
  match ← search loader name with
  | none => return none
  | some found => supply found

section

variable {world : ω} {past : List Act} {contents : Slots ω}

theorem sized_make [Memory ω] (opened : OpenModule ω) (plugin : TransportPlugin ω)
    (routine : StartRoutine ω) (name : String) (config : Option String)
    (info : Static ω (TransportInfo ω)) :
    Ensures (Asked world past contents)
      (do
        match ← Context.querySize opened plugin routine name config with
        | .error cause => return .error cause
        | .ok size =>
          match ← Context.fill opened plugin routine name config size with
          | .error cause => return .error cause
          | .ok context => return .ok (info, context) :
        StateM (Platform ω) (Except Error (Static ω (TransportInfo ω) × Context ω)))
      fun made s => ∃ last acts,
        Sized (some routine) config world last (heard isStart acts)
          (made.toOption.map fun made => made.2.size) ∧
        Asked last (past ++ acts) contents s := by
  cases asked : routine none 0 config world with | mk query queried
  refine Ensures.bind (Context.asked_querySize opened plugin routine name config) fun size => ?_
  rw [asked]
  refine Ensures.given fun answered => ?_
  split at answered
  case isTrue refused =>
    subst answered
    refine Ensures.pure fun _ told => ⟨_, _, ?_, told⟩
    exact sized_once opened.number plugin.label asked (fun fit => refused fit.1) (.none _)
  case isFalse granted =>
    subst answered
    have granted := Decidable.not_not.mp granted
    cases room : (Buffer.available query.size queried).1 with
    | false =>
      refine Ensures.bind (Context.asked_fill_of_short opened plugin routine name config room)
        fun filled => Ensures.given fun short => ?_
      subst short
      refine Ensures.pure fun _ told => ⟨_, _, ?_, told⟩
      refine sized_once opened.number plugin.label asked (fun fit => ?_) (row_available (.none _))
      exact Bool.false_ne_true (room.symm.trans fit.2)
    | true =>
      cases answered : routine (some ⟨query.size, none⟩) query.size config
        (Buffer.available query.size queried).2 with | mk reply last
      refine Ensures.bind (Context.asked_fill opened plugin routine name config room answered)
        fun filled => Ensures.exists_intro fun number => ?_
      have twice := sized_twice opened.number plugin.label asked granted room number answered
      rw [List.append_assoc]
      cases filled with
      | error cause =>
        refine Ensures.pure fun s ⟨told, refused, _⟩ => ⟨_, _, ?_, told⟩
        rw [if_neg refused] at twice
        exact twice
      | ok context =>
        refine Ensures.pure fun s ⟨told, started, ⟨_, _, size⟩, _⟩ => ⟨_, _, ?_, told⟩
        rw [if_pos started] at twice
        change Sized _ _ _ _ _ (some context.size)
        rw [size]
        exact twice

theorem sized_start [Memory ω] (opened : OpenModule ω) (name : String) (config : Option String) :
    Ensures (Asked world past contents) (start opened name config) fun started s =>
      ∃ last acts,
        Sized (supply opened.exports world).1 config (supply opened.exports world).2 last
          (heard isStart acts) (started.toOption.map fun made => made.2.size) ∧
        Asked last (past ++ acts) contents s := by
  unfold start supply
  cases opened.exports.transport with
  | none =>
    refine Ensures.bind Asked.note fun _ => Ensures.pure fun _ asked => ?_
    exact ⟨_, [], ⟨rfl, rfl, rfl⟩, (List.append_nil past).symm ▸ asked⟩
  | some plugin =>
    refine Ensures.bind Asked.consult fun info? => Ensures.given fun answered => ?_
    simp only [bind_apply, ← answered]
    refine Ensures.bind Asked.record fun _ => ?_
    cases info? with
    | none => exact Ensures.pure fun _ asked => ⟨_, _, ⟨rfl, rfl, rfl⟩, asked⟩
    | some info =>
      cases supplies : info.value.start with
      | none =>
        simp only [Platform.peek_eq, pure_bind, Option.bind_some, supplies]
        exact Ensures.pure fun _ asked => ⟨_, _, ⟨rfl, rfl, rfl⟩, asked⟩
      | some routine =>
        simp only [Platform.peek_eq, pure_bind, Option.bind_some, supplies]
        refine (sized_make opened plugin routine name config info).weaken ?_
        rintro made s ⟨last, acts, sized, asked⟩
        rw [List.append_assoc] at asked
        refine ⟨last, _, ?_, asked⟩
        exact sized

theorem sized_load [Memory ω] (empty : contents.transport = none) (loader : ModuleLoader ω)
    (name : String) (config : Option String) :
    Ensures (Asked world past contents) (load loader name config) fun loaded s =>
      ∃ acts,
        Sized (supplied loader name world).1 config (supplied loader name world).2 s.outside
          (heard isStart acts) (loaded.toOption.map Context.size) ∧
        s.acts = past ++ acts := by
  unfold load supplied
  refine Ensures.bind Asked.get fun state => Ensures.given fun known => ?_
  rw [transport_of_slots known, empty]
  refine Ensures.bind (asked_locate loader name) fun opened? => Ensures.given fun answered => ?_
  refine Ensures.exists_intro fun paths => ?_
  simp only [bind_apply, ← answered]
  cases opened? with
  | none =>
    refine Ensures.bind Asked.note fun _ => Ensures.pure fun _ asked => ?_
    refine ⟨_, ⟨asked.1, ?_, rfl⟩, asked.2.1⟩
    rw [heard_append, heard_missing fun _ => rfl]
    rfl
  | some opened =>
    refine Ensures.bind (sized_start opened name config) fun started => ?_
    refine Ensures.exists_intro fun last => Ensures.exists_intro fun acts => ?_
    refine Ensures.given fun sized => ?_
    cases started with
    | error cause =>
      refine Ensures.bind Asked.record fun _ => Ensures.pure fun s asked => ?_
      obtain ⟨rfl, told, -⟩ := asked
      exact sized_around sized rfl told
    | ok made =>
      refine Ensures.bind Asked.setTransport fun _ => Ensures.pure fun s asked => ?_
      obtain ⟨rfl, told, -⟩ := asked
      exact sized_around sized rfl told

end

/-- The start routine that a load comes to call, and the outside world at that point: none if a
transport is loaded already, or if what is found supplies none. -/
def initializer (loader : ModuleLoader ω) (name : String) (s : Platform ω) :
    Option (StartRoutine ω) × ω :=
  if s.transport.isSome then (none, s.outside) else supplied loader name s.outside

theorem load_sized [Memory ω] (loader : ModuleLoader ω) (name : String) (config : Option String)
    (s : Platform ω) :
    ∃ shown, heard isStart (load loader name config s).2.acts = heard isStart s.acts ++ shown ∧
      Sized (initializer loader name s).1 config (initializer loader name s).2
        (load loader name config s).2.outside shown
        ((load loader name config s).1.toOption.map Context.size) := by
  unfold initializer
  split
  case isTrue occupied =>
    rw [load_of_occupied occupied]
    have told : Told s.acts (slots s) (Platform.note (.transportOccupied name) s).2 :=
      Told.note s ⟨rfl, rfl⟩
    refine ⟨[], ?_, rfl, rfl, rfl⟩
    rw [told.1, List.append_nil]
  case isFalse vacant =>
    have empty : (slots s).transport = none := Option.not_isSome_iff_eq_none.mp vacant
    obtain ⟨acts, sized, told⟩ := sized_load empty loader name config s ⟨rfl, rfl, rfl⟩
    refine ⟨heard isStart acts, ?_, sized⟩
    rw [told, heard_append]

end Transport

end CryptoProvider
