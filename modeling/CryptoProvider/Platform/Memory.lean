import CryptoProvider.Platform.Module

/-!
Memory, which the outside world grants or refuses. Whether a request is granted can be different
each time; only what no object can be made of is refused without asking.
-/

set_option autoImplicit false

namespace CryptoProvider

/-- The memory of the process, one for each kind of outside world. No caller supplies it, and what
it is asked does not show in the trace. -/
class Memory (ω : Type) where
  grants : (size : Nat) → StateM ω Bool

namespace Memory

variable {ω : Type} [Memory ω]

/-- The size of the largest object that there can be. -/
def largest : Nat := 0x7fffffffffffffff

/-- Asks for an object of a size, unless the next multiple of its alignment can be too large. -/
def request (size alignment : Nat) : StateM ω Bool :=
  if largest < size + (alignment - 1) then return false else grants size

end Memory

namespace Buffer

variable {ω : Type}

def isZeroed (buffer : Buffer ω) : Bool :=
  buffer.header.isNone

def alignment : Nat := 16

variable [Memory ω]

/-- Whether a buffer of a size can be had. There is none of no bytes. -/
def available (size : Nat) : StateM ω Bool :=
  if size = 0 then return false else Memory.request size alignment

def allocate (size : Nat) : StateM (Platform ω) (Except Error (Buffer ω)) := do
  let granted ← Platform.consult (available size)
  return if granted then .ok ⟨size, none⟩ else .error (.contextAllocation size)

end Buffer

namespace Locking.Pool

variable {ω : Type} [Memory ω]

/-- Whether the locks of a pool can be had, one byte for each. No locks need no memory. -/
def available (size : Nat) : StateM ω Bool :=
  if size = 0 then return true else Memory.request size 1

def reserve (size : Nat) : StateM (Platform ω) (Except Error Pool) := do
  let granted ← Platform.consult (available size)
  return if granted then .ok (.free size) else .error (.lockPoolAllocation size)

end Locking.Pool

end CryptoProvider
