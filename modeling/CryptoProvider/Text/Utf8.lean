import CryptoProvider.Bytes

/-!
Reading UTF-8. A strict reader refuses ill-formed bytes (`decode?`); a lenient one (`decodeLossy`)
puts one replacement character for every longest start of a character that does not go on.
-/

set_option autoImplicit false

namespace CryptoProvider.Text

def replacement : Char := '\uFFFD'

def continuation? (low high byte : UInt8) : Option Nat :=
  if low ≤ byte ∧ byte ≤ high then some (byte.toNat % 64) else none

-- What a leading byte announces: payload bits, bounds of the second byte, bytes still to come.
def lead? (byte : UInt8) : Option (Nat × UInt8 × UInt8 × Nat) :=
  let value := byte.toNat
  if value < 0x80 then some (value, 0, 0, 0)
  else if value < 0xc2 then none
  else if value < 0xe0 then some (value % 32, 0x80, 0xbf, 1)
  else if value = 0xe0 then some (0, 0xa0, 0xbf, 2)
  else if value = 0xed then some (13, 0x80, 0x9f, 2)
  else if value < 0xf0 then some (value % 16, 0x80, 0xbf, 2)
  else if value = 0xf0 then some (0, 0x90, 0xbf, 3)
  else if value < 0xf4 then some (value % 8, 0x80, 0xbf, 3)
  else if value = 0xf4 then some (4, 0x80, 0x8f, 3)
  else none

/-- Where a reader stands: the character begun, the bounds of its next byte, bytes still to come. -/
structure Partial where
  value : Nat
  low : UInt8
  high : UInt8
  missing : Nat

-- Reads on after `begun`, writing the replacement character where a character breaks off.
def decodeFrom : (begun : Option Partial) → Bytes → List Char
  | none, [] => []
  | some _, [] => [replacement]
  | none, byte :: rest =>
    match lead? byte with
    | none => replacement :: decodeFrom none rest
    | some (value, _, _, 0) => Char.ofNat value :: decodeFrom none rest
    | some (value, low, high, missing) => decodeFrom (some ⟨value, low, high, missing⟩) rest
  | some begun, byte :: rest =>
    match continuation? begun.low begun.high byte with
    | some bits =>
      let value := begun.value * 64 + bits
      if begun.missing ≤ 1 then Char.ofNat value :: decodeFrom none rest
      else decodeFrom (some ⟨value, 0x80, 0xbf, begun.missing - 1⟩) rest
    | none =>
      match lead? byte with
      | none => replacement :: replacement :: decodeFrom none rest
      | some (value, _, _, 0) => replacement :: Char.ofNat value :: decodeFrom none rest
      | some (value, low, high, missing) =>
        replacement :: decodeFrom (some ⟨value, low, high, missing⟩) rest

def decodeLossy (bytes : Bytes) : String :=
  String.ofList (decodeFrom none bytes)

def decode? (bytes : Bytes) : Option String :=
  String.fromUTF8? (ByteArray.mk bytes.toArray)

-- The bytes before the first zero byte, as text.
def ofTerminated (bytes : Bytes) : String :=
  decodeLossy (bytes.takeWhile (· ≠ 0))

end CryptoProvider.Text
