import FleetToken.Json.Basic
import FleetToken.Stack
import FleetToken.Text.DecimalDigit
import FleetToken.Text.Utf16
import FleetToken.Text.Utf8

/-!
# Reading JSON

A document is read from bytes, whose encoding shows in their first few, or from text. Beyond the
JSON grammar the names `NaN`, `Infinity` and `-Infinity` are numbers and escapes may write single
surrogates. Control characters inside strings are refused, as are integers of too many digits.
Arrays and objects are read by calls within calls, so the room on the stack limits their nesting.

## Main definitions

- `Json.Fault`: why a document cannot be read.
- `Json.parse`: reads text.
- `Json.decode`: reads bytes.
-/

namespace FleetToken.Json

/-- Why a JSON document cannot be read. -/
inductive Fault where
  /-- The bytes are not valid in the encoding that they show. -/
  | undecodable
  /-- The text is no JSON value. -/
  | malformed
  /-- An integer has more digits than are read. -/
  | tooManyDigits
  /-- Arrays and objects are nested more deeply than the stack has room for. -/
  | tooDeep
deriving DecidableEq

/-- The four blanks that JSON allows between tokens. -/
def isJsonBlank (c : CodePoint) : Bool :=
  c.val == 0x20 || c.val == 0x09 || c.val == 0x0A || c.val == 0x0D

/-- The text from its first code point on that is no blank. -/
def skipBlanks (t : Text) : Text :=
  t.dropWhile isJsonBlank

/-- The unit that four hexadecimal digits write. -/
def hexUnit? (a b c d : CodePoint) : Option CodePoint := do
  return .ofNat ((((← a.hexValue?) * 16 + (← b.hexValue?)) * 16 + (← c.hexValue?)) * 16
    + (← d.hexValue?))

/-- The code point that a backslash and a letter write. -/
def shortEscape? (c : CodePoint) : Option CodePoint :=
  if c = CodePoint.ofChar '"' ∨ c = CodePoint.ofChar '\\' ∨ c = CodePoint.ofChar '/' then some c
  else if c = CodePoint.ofChar 'b' then some (.ofNat 0x08)
  else if c = CodePoint.ofChar 'f' then some (.ofNat 0x0C)
  else if c = CodePoint.ofChar 'n' then some (CodePoint.ofChar '\n')
  else if c = CodePoint.ofChar 'r' then some (CodePoint.ofChar '\r')
  else if c = CodePoint.ofChar 't' then some (CodePoint.ofChar '\t')
  else none

/-- A code point of a string, and whether it was written as a numeric escape. -/
abbrev Unit16 := Bool × CodePoint

/-- The units of a string up to its closing quote, and what follows the quote. -/
def readUnits : Text → Except Fault (List Unit16 × Text)
  | [] => .error .malformed
  | c :: rest =>
    if c = CodePoint.ofChar '"' then .ok ([], rest)
    else if c.val < 0x20 then .error .malformed
    else if c = CodePoint.ofChar '\\' then
      match rest with
      | [] => .error .malformed
      | e :: rest =>
        if e = CodePoint.ofChar 'u' then
          match rest with
          | h₁ :: h₂ :: h₃ :: h₄ :: rest =>
            match hexUnit? h₁ h₂ h₃ h₄ with
            | none => .error .malformed
            | some unit => do
              let (units, rest) ← readUnits rest
              return ((true, unit) :: units, rest)
          | _ => .error .malformed
        else
          match shortEscape? e with
          | none => .error .malformed
          | some c => do
            let (units, rest) ← readUnits rest
            return ((false, c) :: units, rest)
    else do
      let (units, rest) ← readUnits rest
      return ((false, c) :: units, rest)

/-- The text of a string's units: the two halves of a surrogate pair that are both written as
escapes are one code point. -/
def joinUnits : List Unit16 → Text
  | [] => []
  | [(_, c)] => [c]
  | (escaped, c) :: (escaped', c') :: rest =>
    -- Halves that stand in the text themselves stay apart.
    if escaped && escaped' && c.isHighSurrogate && c'.isLowSurrogate then
      CodePoint.ofPair c c' :: joinUnits rest
    else c :: joinUnits ((escaped', c') :: rest)

/-- The string after an opening quote. -/
def readString (t : Text) : Except Fault (Text × Text) := do
  let (units, rest) ← readUnits t
  return (joinUnits units, rest)

/-- The digits at the front of a text, and what follows them. -/
def spanDigits (t : Text) : Text × Text :=
  t.span CodePoint.isAsciiDigit

/-- The fraction at the front of a text: a point and at least one digit. -/
def fraction? (t : Text) : Option (Text × Text) :=
  match t with
  | [] => none
  | c :: rest =>
    let (digits, rest) := spanDigits rest
    if c = CodePoint.ofChar '.' ∧ digits ≠ [] then some (digits, rest) else none

/-- The exponent at the front of a text: a letter, perhaps a sign, and at least one digit. -/
def exponent? (t : Text) : Option (Int × Text) :=
  match t with
  | [] => none
  | c :: rest =>
    let (negative, rest) := Text.readSign rest
    let (digits, rest) := spanDigits rest
    if (c = CodePoint.ofChar 'e' ∨ c = CodePoint.ofChar 'E') ∧ digits ≠ [] then
      some (Text.signed negative (Text.digitsValue digits), rest)
    else none

/-- The number after its sign. The integer part is a zero alone or begins with another digit; a
fraction or an exponent makes the number a floating-point one. -/
def readNumber (negative : Bool) (t : Text) : Except Fault (Json × Text) :=
  let (run, afterRun) := spanDigits t
  match run with
  | [] => .error .malformed
  | first :: more =>
    -- After a leading zero further digits belong to what follows the number.
    let leadingZero := first = CodePoint.ofChar '0'
    let whole := if leadingZero then [first] else first :: more
    let rest := if leadingZero then more ++ afterRun else afterRun
    match fraction? rest, exponent? rest with
    | none, none =>
      if whole.length ≤ Text.maxIntDigits then
        .ok (.int (Text.signed negative (Text.digitsValue whole)), rest)
      else .error .tooManyDigits
    | none, some (exponent, rest) =>
      .ok (.float (.ofDecimal negative (Text.digitsValue whole) exponent), rest)
    | some (digits, rest), _ =>
      let (exponent, rest) := (exponent? rest).getD (0, rest)
      .ok (.float (.ofDecimal negative (Text.digitsValue (whole ++ digits))
        (exponent - digits.length)), rest)

/-- A value that is written as a name. -/
def readName (t : Text) : Except Fault (Json × Text) :=
  let names : List (String × Json) :=
    [("null", .null), ("true", .bool true), ("false", .bool false), ("NaN", .float .notANumber),
      ("Infinity", .float (.infinity false)), ("-Infinity", .float (.infinity true))]
  match names.findSome? fun (name, value) =>
    (Text.after? (Text.ofString name) t).map fun rest => (value, rest) with
  | some found => .ok found
  | none => .error .malformed

/-- A value that is neither a string nor an array nor an object. -/
def readScalar (t : Text) : Except Fault (Json × Text) :=
  match t with
  | [] => .error .malformed
  | c :: rest =>
    if c = CodePoint.ofChar '-' ∧ (spanDigits rest).1 ≠ [] then readNumber true rest
    else if c.isAsciiDigit then readNumber false t
    else readName t

mutual

/-- The value at the front of a text, which `fuel` suffices to read if it is twice the length. An
array or an object takes a level of the room before anything of it is looked at. -/
def readValue : Nat → Room → Text → Except Fault (Json × Text)
  | 0, _, _ => .error .malformed
  | _, _, [] => .error .malformed
  | fuel + 1, room, c :: rest =>
    if c = CodePoint.ofChar '"' then do
      let (t, rest) ← readString rest
      return (.string t, rest)
    else if c = CodePoint.ofChar '[' then
      match room.inner? with
      | none => .error .tooDeep
      | some inner =>
        match skipBlanks rest with
        | [] => .error .malformed
        | d :: rest =>
          if d = CodePoint.ofChar ']' then .ok (.array [], rest)
          else do
            let (items, rest) ← readItems fuel inner (d :: rest)
            return (.array items, rest)
    else if c = CodePoint.ofChar '{' then
      match room.inner? with
      | none => .error .tooDeep
      | some inner =>
        match skipBlanks rest with
        | [] => .error .malformed
        | d :: rest =>
          if d = CodePoint.ofChar '}' then .ok (.object [], rest)
          else do
            let (members, rest) ← readMembers fuel inner (d :: rest)
            return (.object (Members.ofList members), rest)
    else readScalar (c :: rest)

/-- The items of an array up to its closing bracket. -/
def readItems : Nat → Room → Text → Except Fault (List Json × Text)
  | 0, _, _ => .error .malformed
  | fuel + 1, room, t => do
    let (item, rest) ← readValue fuel room t
    match skipBlanks rest with
    | [] => .error .malformed
    | c :: rest =>
      if c = CodePoint.ofChar ']' then return ([item], rest)
      else if c = CodePoint.ofChar ',' then do
        let (items, rest) ← readItems fuel room (skipBlanks rest)
        return (item :: items, rest)
      else .error .malformed

/-- The members of an object up to its closing brace. -/
def readMembers : Nat → Room → Text → Except Fault (List (Text × Json) × Text)
  | 0, _, _ => .error .malformed
  | _, _, [] => .error .malformed
  | fuel + 1, room, quote :: rest =>
    if quote = CodePoint.ofChar '"' then do
      -- Keys may come twice here; the last of them counts when they are put together.
      let (key, rest) ← readString rest
      match skipBlanks rest with
      | [] => .error .malformed
      | colon :: rest =>
        if colon = CodePoint.ofChar ':' then do
          let (value, rest) ← readValue fuel room (skipBlanks rest)
          match skipBlanks rest with
          | [] => .error .malformed
          | c :: rest =>
            if c = CodePoint.ofChar '}' then return ([(key, value)], rest)
            else if c = CodePoint.ofChar ',' then do
              let (members, rest) ← readMembers fuel room (skipBlanks rest)
              return ((key, value) :: members, rest)
            else .error .malformed
        else .error .malformed
    else .error .malformed

end

/-- The value that a text writes, with blanks around it. -/
def parse (t : Text) (room : Room := .unlimited) : Except Fault Json := do
  let (value, rest) ← readValue (2 * t.length + 2) room (skipBlanks t)
  if skipBlanks rest = [] then return value else throw .malformed

/-- The byte order marks with the readers of their encodings. A mark comes before the shorter one
that it begins with. -/
def byteOrderMarks : List (Bytes × (Bytes → Option Text)) :=
  [([0x00, 0x00, 0xFE, 0xFF], Text.ofUtf32? .big),
    ([0xFF, 0xFE, 0x00, 0x00], Text.ofUtf32? .little),
    ([0xFE, 0xFF], Text.ofUtf16? .big), ([0xFF, 0xFE], Text.ofUtf16? .little),
    ([0xEF, 0xBB, 0xBF], Text.ofUtf8? true)]

/-- The text of JSON bytes without a mark, whose encoding shows in the zero bytes among the first
four. -/
def unmarkedTextOf? (bytes : Bytes) : Option Text :=
  match bytes with
  | a :: b :: c :: d :: _ =>
    if a = 0 then if b = 0 then Text.ofUtf32? .big bytes else Text.ofUtf16? .big bytes
    else if b = 0 then
      if c = 0 ∧ d = 0 then Text.ofUtf32? .little bytes else Text.ofUtf16? .little bytes
    else Text.ofUtf8? true bytes
  | [a, b] =>
    if a = 0 then Text.ofUtf16? .big bytes
    else if b = 0 then Text.ofUtf16? .little bytes
    else Text.ofUtf8? true bytes
  | _ => Text.ofUtf8? true bytes

/-- The text of JSON bytes. A byte order mark names the encoding. -/
def textOf? (bytes : Bytes) : Option Text :=
  let marked := byteOrderMarks.findSome? fun (mark, read) => (Bytes.after? mark bytes).map read
  marked.getD (unmarkedTextOf? bytes)

/-- The value that bytes write in one of the Unicode encodings. -/
def decode (bytes : Bytes) (room : Room := .unlimited) : Except Fault Json :=
  match textOf? bytes with
  | some t => parse t room
  | none => .error .undecodable

end FleetToken.Json
