import FleetToken.Bytes.Basic

/-!
# DER

The encoding of keys in binary form: elements of a tag, a length and a content. Lengths have one
written form each, the shortest, and so have integers.

## Main definitions

- `Der.Element`: a tag with its content, written by `Der.Element.encode`.
- `Der.elements?`: the elements that some bytes are.
- `Der.natural?`, `Der.natural`: the content of a non-negative integer.
- `Der.isIdentifier`: the contents that are object identifiers.
-/

namespace FleetToken.Der

/-- A tag with the bytes of its content. -/
structure Element where
  /-- The tag. -/
  tag : UInt8
  /-- The content. -/
  content : Bytes
deriving DecidableEq

/-- The tag of an integer. -/
def integerTag : UInt8 := 0x02

/-- The tag of a string of bits. -/
def bitStringTag : UInt8 := 0x03

/-- The tag of the null value. -/
def nullTag : UInt8 := 0x05

/-- The tag of an object identifier. -/
def identifierTag : UInt8 := 0x06

/-- The tag of a sequence. -/
def sequenceTag : UInt8 := 0x30

/-- The significant bytes of a number, the most significant first; zero has none. -/
def significantBytes (n : Nat) : Bytes :=
  if n = 0 then [] else Bytes.ofNatBig (n.log2 / 8 + 1) n

/-- The written length of a content. -/
def encodeLength (n : Nat) : Bytes :=
  if n < 0x80 then [UInt8.ofNat n]
  else
    let digits := significantBytes n
    UInt8.ofNat (0x80 + digits.length) :: digits

/-- The length at the front of some bytes, in its shortest form and of at most four bytes. -/
def length? : Bytes → Option (Nat × Bytes)
  | [] => none
  | first :: rest =>
    if first < 0x80 then some (first.toNat, rest)
    else
      -- A longer form of a length that has a shorter one is refused.
      let width := first.toNat - 0x80
      let n := Bytes.toNatBig (rest.take width)
      if width ≤ 4 ∧ encodeLength n = first :: rest.take width then some (n, rest.drop width)
      else none

/-- The written form of an element. -/
def Element.encode (e : Element) : Bytes :=
  e.tag :: encodeLength e.content.length ++ e.content

/-- The element at the front of some bytes, and what follows it. -/
def element? : Bytes → Option (Element × Bytes)
  | [] => none
  | tag :: rest => do
    let (length, rest) ← length? rest
    if length ≤ rest.length then return (⟨tag, rest.take length⟩, rest.drop length) else none

/-- The elements that some bytes are, of which there are at most `count`. -/
def elementsUpTo? : Nat → Bytes → Option (List Element)
  | _, [] => some []
  | 0, _ => none
  | count + 1, bytes => do
    let (e, rest) ← element? bytes
    return e :: (← elementsUpTo? count rest)

/-- The elements that some bytes are. -/
def elements? (bytes : Bytes) : Option (List Element) :=
  elementsUpTo? bytes.length bytes

/-- The elements of the one sequence that some bytes are. -/
def sequence? (bytes : Bytes) : Option (List Element) :=
  match elements? bytes with
  | some [⟨0x30, content⟩] => elements? content
  | _ => none

/-- The number in the content of an integer that is not negative. -/
def natural? (e : Element) : Option Nat :=
  if e.tag ≠ integerTag then none
  else
    match e.content with
    | [] => none
    | [b] => if b < 0x80 then some b.toNat else none
    | b :: c :: rest =>
      -- A zero byte in front must be needed to keep the number from being negative.
      if b < 0x80 ∧ (b ≠ 0 ∨ 0x80 ≤ c) then some (Bytes.toNatBig (b :: c :: rest)) else none

/-- The element of a natural number. -/
def natural (n : Nat) : Element where
  tag := integerTag
  content := Bytes.ofNatBig (n.log2 / 8 + 1 + if n.log2 % 8 = 7 then 1 else 0) n

/-- The most bytes that an object identifier may have. -/
def maxIdentifierBytes : Nat := 63

/-- Whether some bytes are numbers in base 128 without a zero in front, where all bytes of a number
but its last one are marked. The first byte is that of a number if it `starts` one. -/
def isNumbers (starts : Bool) : Bytes → Bool
  | [] => starts
  | b :: rest => !(starts && b == 0x80) && isNumbers (b < 0x80) rest

/-- Whether a content is an object identifier. -/
def isIdentifier (content : Bytes) : Bool :=
  content ≠ [] && content.length ≤ maxIdentifierBytes && isNumbers true content

/-- The sequence of some elements. -/
def sequence (elements : List Element) : Element where
  tag := sequenceTag
  content := elements.flatMap Element.encode

/-- The bytes of a string of bits without unused bits. -/
def bitString? (e : Element) : Option Bytes :=
  match e.content with
  | 0x00 :: bytes => if e.tag = bitStringTag then some bytes else none
  | _ => none

/-- The string of bits of some bytes. -/
def bitString (bytes : Bytes) : Element where
  tag := bitStringTag
  content := 0x00 :: bytes

end FleetToken.Der
