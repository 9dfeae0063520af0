import CryptoProvider.Platform.Memory

/-!
Transport contexts and the two calls that make one: the first asks how large it has to be, the
second fills a zeroed buffer of that size. A context is finalized at most once.
-/

set_option autoImplicit false

namespace CryptoProvider

/-- The finalizer that a header of a known version has, with the header's magic number. -/
def Header.finalizer? {ω : Type} (header : Header ω) : Option (Nat × StateM ω Unit) := do
  let finalizer ← header.finalizer
  if 1 ≤ header.version then some (header.magic, finalizer) else none

namespace Transport

structure Context (ω : Type) where
  number : Nat
  plugin : String
  reported : Bool
  buffer : Buffer ω
  finalized : Bool

def headerSize : Nat := 64

namespace Context

variable {ω : Type}

def size (context : Context ω) : Nat :=
  context.buffer.size

/-- The header, if the buffer is large enough to hold one. -/
def header? (context : Context ω) : Option (Static ω (Header ω)) :=
  if context.size < headerSize then none else context.buffer.header

/-- The finalizer to run, with the magic number of the header it stands in. -/
def finalizer? (context : Context ω) : Option (Nat × StateM ω Unit) := do
  let memory ← context.header?
  memory.value.finalizer?

/-- Reads the finalizer from where the header is when it is wanted. -/
def readFinalizer (context : Context ω) : StateM (Platform ω) (Option (Nat × StateM ω Unit)) := do
  match context.header? with
  | none => return none
  | some memory => return (← Platform.peek memory).finalizer?

theorem readFinalizer_eq (context : Context ω) :
    context.readFinalizer = pure context.finalizer? := by
  unfold readFinalizer finalizer?
  cases context.header? with
  | none => rfl
  | some memory => simp only [Platform.peek_eq, pure_bind, Option.bind_eq_bind, Option.bind_some]

/-- Runs the finalizer, the first time; afterwards does nothing. -/
def finalize (context : Context ω) : StateM (Platform ω) (Context ω) := do
  if context.finalized then return context
  match ← context.readFinalizer with
  | none => pure ()
  | some (magic, finalizer) =>
    Platform.record context.reported
      (.transportFinalize context.plugin context.number magic (← get).transport.isSome)
    Platform.consult finalizer
  return { context with finalized := true }

theorem finalize_eq (context : Context ω) :
    context.finalize = (do
      if context.finalized then return context
      match context.finalizer? with
      | none => pure ()
      | some (magic, finalizer) =>
        Platform.record context.reported
          (.transportFinalize context.plugin context.number magic (← get).transport.isSome)
        Platform.consult finalizer
      return { context with finalized := true }) := by
  unfold finalize
  rw [readFinalizer_eq]
  rfl

def querySize (opened : OpenModule ω) (plugin : TransportPlugin ω) (start : StartRoutine ω)
    (name : String) (config : Option String) : StateM (Platform ω) (Except Error Nat) := do
  let reply ← Platform.consult (start none 0 config)
  Platform.record opened.reported (.transportSize opened.number plugin.label config reply.status)
  if reply.status ≠ 0 then
    Platform.note (.transportSizeQueryFailed name reply.status)
    return .error (.transportSizeQuery name reply.status)
  return .ok reply.size

def fill [Memory ω] (opened : OpenModule ω) (plugin : TransportPlugin ω) (start : StartRoutine ω)
    (name : String) (config : Option String) (size : Nat) :
    StateM (Platform ω) (Except Error (Context ω)) := do
  match ← Buffer.allocate size with
  | .error cause => return .error cause
  | .ok buffer =>
    let number ← Platform.fresh
    let reply ← Platform.consult (start (some buffer) size config)
    Platform.record opened.reported
      (.transportStart opened.number plugin.label number config size buffer.isZeroed reply.status)
    if reply.status ≠ 0 then
      Platform.note (.transportStartFailed name reply.status)
      return .error (.transportStart name reply.status)
    return .ok
      { number, plugin := plugin.label, reported := opened.reported
        buffer := { buffer with header := reply.header }, finalized := false }

end Context

end Transport

end CryptoProvider
