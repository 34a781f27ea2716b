import FleetToken.Claims.Issue
import FleetToken.Json.Reader
import FleetToken.Time.Timestamp

/-!
# Reading dates

A date claim is a number of seconds, a number of milliseconds if it is large, the text of such a
number, a date with a time, or a date alone.

## Main definitions

- `Timestamp.ofNumber?`, `Timestamp.ofFloat?`: the instant of a number.
- `Timestamp.ofText?`: the reading that a text writes.
- `Timestamp.ofJson`: the reading that a claim states.
-/

namespace FleetToken

namespace Timestamp

/-- Numbers of greater magnitude count milliseconds instead of seconds. -/
def watershed : Int := 20000000000

/-- The first reading of the year that four zeros write. -/
def yearZeroWall : Int := CivilDate.dayNumber ⟨CivilDate.yearZero, 1, 1⟩ * microsPerDay

/-- The instant of some microseconds, if four digits write its year. -/
def utc? (micros : Int) : Option WallReading :=
  if yearZeroWall ≤ micros ∧ micros < endWall then some ⟨micros, .fixed 0⟩ else none

/-- The instant of an integer. -/
def ofNumber? (n : Int) : Option WallReading :=
  utc? (if n.natAbs ≤ watershed.natAbs then n * microsPerSecond else n * 1000)

/-- The instant of a floating-point number, to the nearest microsecond. The fraction beyond the
whole seconds or milliseconds is multiplied to microseconds in binary64. -/
def ofFloat? (x : Binary64) : Option WallReading := do
  let (num, den) ← x.ratio?
  let unit := if num.natAbs ≤ watershed.natAbs * den then microsPerSecond else 1000
  let whole := num / den
  let (partNum, partDen) ← (Binary64.ofQuotient ((num - whole * den) * unit) den).ratio?
  -- Half a microsecond is rounded up.
  utc? (whole * unit + (2 * partNum + partDen) / (2 * partDen))

/-- The number of a fixed count of ASCII digits at the front of a text. -/
def digits? (count : Nat) (t : Text) : Option (Nat × Text) :=
  let front := t.take count
  if front.length = count ∧ front.all CodePoint.isAsciiDigit then
    some (Text.digitsValue front, t.drop count)
  else none

/-- What follows the given character at the front of a text. -/
def skip? (c : Char) (t : Text) : Option Text :=
  match t with
  | [] => none
  | d :: rest => if d = CodePoint.ofChar c then some rest else none

/-- The date at the front of a text: four, two and two digits with hyphens between them. -/
def date? (t : Text) : Option (CivilDate × Text) := do
  let (year, t) ← digits? 4 t
  let (month, t) ← digits? 2 (← skip? '-' t)
  let (day, t) ← digits? 2 (← skip? '-' t)
  let date : CivilDate := ⟨year, month, day⟩
  if date.IsValid then return (date, t) else none

/-- The microseconds that the digits of a fraction write; digits after the sixth are dropped. -/
def fractionMicros (digits : Text) : Nat :=
  Text.digitsValue (digits.take 6) * Nat.pow 10 (6 - digits.length)

/-- The seconds at the front of a text, in microseconds: two digits, and perhaps a fraction behind
a point or a comma. -/
def seconds? (t : Text) : Option (Nat × Text) := do
  let (second, t) ← digits? 2 t
  if 60 ≤ second then none
  else
    match (skip? '.' t).or (skip? ',' t) with
    | none => return (second * 1000000, t)
    | some t =>
      let (digits, t) := Json.spanDigits t
      if digits = [] then none else return (second * 1000000 + fractionMicros digits, t)

/-- The time of day at the front of a text, in microseconds: hours and minutes, and perhaps
seconds. -/
def time? (t : Text) : Option (Nat × Text) := do
  let (hour, t) ← digits? 2 t
  let (minute, t) ← digits? 2 (← skip? ':' t)
  if 24 ≤ hour ∨ 60 ≤ minute then none
  else
    let whole := (hour * 60 + minute) * 60000000
    match skip? ':' t with
    | none => return (whole, t)
    | some t =>
      let (micros, t) ← seconds? t
      return (whole + micros, t)

/-- The clock that a whole text names behind a time: none, UTC by the letter Z, or one with an
offset of hours and minutes behind a sign, where a colon may stand between these. -/
def clock? (t : Text) : Option WallClock :=
  match t with
  | [] => some .naive
  | c :: rest =>
    if c = CodePoint.ofChar 'Z' ∨ c = CodePoint.ofChar 'z' then
      if rest = [] then some (.fixed 0) else none
    -- U+2212 is the minus sign beyond ASCII.
    else if c = CodePoint.ofChar '+' ∨ c = CodePoint.ofChar '-' ∨ c.val = 0x2212 then do
      let (hours, rest) ← digits? 2 rest
      let (minutes, rest) ← digits? 2 ((skip? ':' rest).getD rest)
      if rest = [] ∧ minutes < 60 then
        let total : Int := hours * 60 + minutes
        -- Offsets of a day or more are refused.
        (Offset.ofMinutes? (if c = CodePoint.ofChar '+' then total else -total)).map .fixed
      else none
    else none

/-- The reading of a date with a time: the two are parted by the letter T, a blank or a low
line. -/
def ofDateTime? (t : Text) : Option WallReading := do
  let (date, t) ← date? t
  match t with
  | [] => none
  | sep :: t =>
    if sep = CodePoint.ofChar 'T' ∨ sep = CodePoint.ofChar 't' ∨ sep = CodePoint.ofChar ' '
        ∨ sep = CodePoint.ofChar '_' then do
      let (micros, t) ← time? t
      return ⟨date.dayNumber * microsPerDay + micros, ← clock? t⟩
    else none

/-- The reading of a date alone, its first moment on a naive clock. -/
def ofDate? (t : Text) : Option WallReading := do
  let (date, t) ← date? t
  if t = [] then return ⟨date.dayNumber * microsPerDay, .naive⟩ else none

/-- The floating-point number that a text writes: digits with a point among or around them, and
perhaps an exponent behind. -/
def float? (t : Text) : Option Binary64 := do
  let (negative, t) := Text.readSign t
  let (whole, t) := Json.spanDigits t
  let (fraction, t) := Json.spanDigits (← skip? '.' t)
  let mantissa := Text.digitsValue (whole ++ fraction)
  if whole = [] ∧ fraction = [] then none
  else
    match t, Json.exponent? t with
    | [], _ => some (.ofDecimal negative mantissa (-fraction.length))
    | _, some (exponent, []) => some (.ofDecimal negative mantissa (exponent - fraction.length))
    | _, _ => none

/-- The instant of a number in text. -/
def ofNumeral? (t : Text) : Option WallReading :=
  let (negative, digits) := Text.readSign t
  if digits ≠ [] ∧ digits.all CodePoint.isAsciiDigit then
    ofNumber? (Text.signed negative (Text.digitsValue digits))
  else (float? t).bind ofFloat?

/-- The reading that a text writes, in the first form that fits: a date with a time, a number, a
date alone. -/
def ofText? (t : Text) : Option WallReading :=
  (ofDateTime? t).or ((ofNumeral? t).or (ofDate? t))

/-- A reading in a year that is represented, or the issue that there is none. -/
def orIssue (kind : IssueKind) (found : Option WallReading) : Checked Timestamp :=
  match found with
  | some reading =>
    match reading.timestamp? with
    | some t => .ok t
    | none => Checked.fault .datetimeParsing
  | none => Checked.fault kind

/-- The reading that a claim states. -/
def ofJson : Json → Checked Timestamp
  | .int n =>
    if (Binary64.ofInt n).isFinite then orIssue .datetimeParsing (ofNumber? n)
    else Checked.fault .datetimeType
  | .float x => orIssue .datetimeParsing (ofFloat? x)
  | .string t =>
    if t.any CodePoint.isSurrogate then Checked.fault .stringUnicode
    else orIssue .datetimeFromDateParsing (ofText? t)
  | _ => Checked.fault .datetimeType

end Timestamp

end FleetToken
