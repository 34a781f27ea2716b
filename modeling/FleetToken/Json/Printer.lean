import FleetToken.Binary64.Shortest
import FleetToken.Json.Basic
import FleetToken.Text.DecimalDigit
import FleetToken.Text.Quoted

/-!
# Writing JSON

Tokens carry compact JSON in ASCII: no blanks, and an escape for each code point beyond ASCII, in
two halves beyond U+FFFF.

## Main definitions

- `Json.compact`: the written form of a value.
- `Json.isWritable`: whether its integers are short enough to be written.
-/

namespace FleetToken.Json

/-- The escape of a 16-bit unit. -/
def escapeUnit (unit : Nat) : Text :=
  Text.ofString "\\u" ++ Text.hexDigits 4 unit

/-- A code point inside a JSON string. -/
def escape (c : CodePoint) : Text :=
  if c = CodePoint.ofChar '"' ∨ c = CodePoint.ofChar '\\' then [CodePoint.ofChar '\\', c]
  else if c = CodePoint.ofChar '\n' then Text.ofString "\\n"
  else if c = CodePoint.ofChar '\r' then Text.ofString "\\r"
  else if c = CodePoint.ofChar '\t' then Text.ofString "\\t"
  else if c.val = 0x08 then Text.ofString "\\b"
  else if c.val = 0x0C then Text.ofString "\\f"
  else if 0x20 ≤ c.val ∧ c.val < 0x7F then [c]
  else if c.val < 0x10000 then escapeUnit c.val
  else
    let above := c.val - 0x10000
    escapeUnit (0xD800 + above / 0x400) ++ escapeUnit (0xDC00 + above % 0x400)

/-- A JSON string. -/
def compactString (t : Text) : Text :=
  CodePoint.ofChar '"' :: t.flatMap escape ++ [CodePoint.ofChar '"']

/-- A floating-point number. The numbers that JSON lacks are written as names. -/
def compactFloat (x : Binary64) : Text :=
  match x.view with
  | .nan => Text.ofString "NaN"
  | .infinite false => Text.ofString "Infinity"
  | .infinite true => Text.ofString "-Infinity"
  | .finite .. => x.toText

mutual

/-- The compact written form of a value. -/
def compact : Json → Text
  | .null => Text.ofString "null"
  | .bool true => Text.ofString "true"
  | .bool false => Text.ofString "false"
  | .int n => Text.ofInt n
  | .float x => compactFloat x
  | .string t => compactString t
  | .array items => CodePoint.ofChar '[' :: compactItems items ++ [CodePoint.ofChar ']']
  | .object members => CodePoint.ofChar '{' :: compactMembers members ++ [CodePoint.ofChar '}']

/-- The items of an array with commas between them. -/
def compactItems : List Json → Text
  | [] => []
  | [item] => compact item
  | item :: items => compact item ++ CodePoint.ofChar ',' :: compactItems items

/-- The members of an object with commas between them. -/
def compactMembers : List (Text × Json) → Text
  | [] => []
  | [member] => compactMember member
  | member :: members => compactMember member ++ CodePoint.ofChar ',' :: compactMembers members

/-- A key, a colon and a value. -/
def compactMember : Text × Json → Text
  | (key, value) => compactString key ++ CodePoint.ofChar ':' :: compact value

end

mutual

/-- Whether no integer in a value has too many digits to be written. -/
def isWritable : Json → Bool
  | .int n => (Text.ofNat n.natAbs).length ≤ Text.maxIntDigits
  | .array items => areItemsWritable items
  | .object members => areMembersWritable members
  | .null | .bool _ | .float _ | .string _ => true

/-- Whether no integer in the items of an array has too many digits. -/
def areItemsWritable : List Json → Bool
  | [] => true
  | item :: items => item.isWritable && areItemsWritable items

/-- Whether no integer in the members of an object has too many digits. -/
def areMembersWritable : List (Text × Json) → Bool
  | [] => true
  | (_, value) :: members => value.isWritable && areMembersWritable members

end

end FleetToken.Json
