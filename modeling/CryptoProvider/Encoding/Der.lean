import CryptoProvider.Bytes

/-!
The distinguished encoding of tagged values: each has one form, with the shortest length and, for
integers, the shortest content. The readers refuse every other form.
-/

set_option autoImplicit false

namespace CryptoProvider.Encoding.Der

def lengthOctets (length : Nat) : Bytes :=
  if length < 0x80 then [UInt8.ofNat length]
  else
    let octets := Bytes.shortest length
    UInt8.ofNat (0x80 + octets.length) :: octets

def tagged (tag : UInt8) (content : Bytes) : Bytes :=
  tag :: lengthOctets content.length ++ content

-- The content of a number: enough bytes that the highest bit is a zero.
def integerContent (value : Nat) : Bytes :=
  Bytes.bigEndian (if value = 0 then 1 else value.log2 / 8 + 1 + if value.log2 % 8 = 7 then 1 else 0)
    value

def integer (value : Nat) : Bytes := tagged 0x02 (integerContent value)
def bitString (content : Bytes) : Bytes := tagged 0x03 (0 :: content)
def octetString (content : Bytes) : Bytes := tagged 0x04 content
def null : Bytes := tagged 0x05 []
def objectIdentifier (content : Bytes) : Bytes := tagged 0x06 content
def sequence (parts : List Bytes) : Bytes := tagged 0x30 parts.flatten

-- Reads the length of a content, in its shortest form, and what follows it.
def readLength? : Bytes → Option (Nat × Bytes)
  | [] => none
  | first :: rest =>
    let value := first.toNat
    if value < 0x80 then some (value, rest)
    else
      let count := value - 0x80
      let length := Bytes.toNat (rest.take count)
      if count ≤ rest.length ∧ first :: rest.take count = lengthOctets length then
        some (length, rest.drop count)
      else none

def readTagged? (tag : UInt8) : Bytes → Option (Bytes × Bytes)
  | [] => none
  | first :: rest =>
    if first = tag then
      match readLength? rest with
      | none => none
      | some (length, rest) =>
        if length ≤ rest.length then some (rest.take length, rest.drop length) else none
    else none

def readInteger? (bytes : Bytes) : Option (Nat × Bytes) :=
  match readTagged? 0x02 bytes with
  | none => none
  | some (content, rest) =>
    let value := Bytes.toNat content
    if content = integerContent value then some (value, rest) else none

def readBitString? (bytes : Bytes) : Option (Bytes × Bytes) :=
  match readTagged? 0x03 bytes with
  | some (0 :: content, rest) => some (content, rest)
  | _ => none

def readWhole? (tag : UInt8) (bytes : Bytes) : Option Bytes :=
  match readTagged? tag bytes with
  | some (content, []) => some content
  | _ => none

-- Reads numbers that are not negative until nothing is left.
def readIntegers? : (count : Nat) → Bytes → Option (List Nat)
  | 0, bytes => if bytes.isEmpty then some [] else none
  | count + 1, bytes => do
    let (value, rest) ← readInteger? bytes
    return value :: (← readIntegers? count rest)

end CryptoProvider.Encoding.Der
