/-! Byte strings: hexadecimal text, and numbers in both byte orders. -/

set_option autoImplicit false

namespace CryptoProvider

abbrev Bytes := List UInt8

namespace Bytes

def littleEndian : (width : Nat) → (value : Nat) → Bytes
  | 0, _ => []
  | width + 1, value => UInt8.ofNat value :: littleEndian width (value / 256)

def bigEndian (width value : Nat) : Bytes :=
  (littleEndian width value).reverse

def toNat (bytes : Bytes) : Nat :=
  bytes.foldl (fun value byte => value * 256 + byte.toNat) 0

def toNatLittle (bytes : Bytes) : Nat :=
  toNat bytes.reverse

/-- How many bytes it takes to write a number; none for zero. -/
def widthOf (value : Nat) : Nat :=
  if value = 0 then 0 else value.log2 / 8 + 1

/-- The shortest big-endian form of a number; empty for zero. -/
def shortest (value : Nat) : Bytes :=
  bigEndian (widthOf value) value

@[simp] theorem length_littleEndian (width value : Nat) :
    (littleEndian width value).length = width := by
  induction width generalizing value with
  | zero => rfl
  | succ width ih => simp [littleEndian, ih]

@[simp] theorem length_bigEndian (width value : Nat) :
    (bigEndian width value).length = width := by
  simp [bigEndian]

/-- Bytewise exclusive or, as long as the shorter operand. -/
def xor (left right : Bytes) : Bytes :=
  List.zipWith (· ^^^ ·) left right

/-- Cuts into pieces of `size` bytes; only the last piece may be shorter. -/
def chunks (size : Nat) (bytes : Bytes) : List Bytes :=
  if _h : size = 0 ∨ bytes = [] then []
  else bytes.take size :: chunks size (bytes.drop size)
termination_by bytes.length
decreasing_by
  have nonempty : 0 < bytes.length := List.length_pos_iff.mpr (fun e => _h (Or.inr e))
  have positive : 0 < size := Nat.pos_of_ne_zero (fun e => _h (Or.inl e))
  simp only [List.length_drop]
  omega

/-- Writes `source` over the front of `buffer`, whose length and tail stay as they are. -/
def overwrite (buffer source : Bytes) : Bytes :=
  source.take buffer.length ++ buffer.drop source.length

theorem overwrite_of_room {buffer source : Bytes} (room : source.length ≤ buffer.length) :
    overwrite buffer source = source ++ buffer.drop source.length := by
  rw [overwrite, List.take_of_length_le room]

def hexDigit (value : Nat) : Char :=
  if value < 10 then Char.ofNat (48 + value) else Char.ofNat (87 + value)

def toHex (bytes : Bytes) : String :=
  String.ofList (bytes.flatMap fun byte => [hexDigit (byte.toNat / 16), hexDigit (byte.toNat % 16)])

def hexValue? (digit : Char) : Option Nat :=
  if '0' ≤ digit ∧ digit ≤ '9' then some (digit.toNat - 48)
  else if 'a' ≤ digit ∧ digit ≤ 'f' then some (digit.toNat - 87)
  else if 'A' ≤ digit ∧ digit ≤ 'F' then some (digit.toNat - 55)
  else none

def ofHexDigits? : List Char → Option Bytes
  | [] => some []
  | [_] => none
  | high :: low :: rest => do
    let h ← hexValue? high
    let l ← hexValue? low
    let bytes ← ofHexDigits? rest
    return UInt8.ofNat (h * 16 + l) :: bytes

def ofHex? (text : String) : Option Bytes :=
  ofHexDigits? text.toList

def ofText (text : String) : Bytes :=
  text.toUTF8.toList

end Bytes

def hexNumber (value : Nat) : String :=
  "0x" ++ String.ofList (Nat.toDigits 16 value)

end CryptoProvider
