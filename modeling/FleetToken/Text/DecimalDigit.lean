import FleetToken.Text.Blank

/-!
# Decimal digits

The decimal digits of Unicode 14 (general category Nd) come in runs of ten, from zero to nine.
An integer may be written with the digits of any script.

## Main definitions

- `CodePoint.decimalDigit?`: the value of a decimal digit of any script.
- `Text.readInt?`: the integer that a text writes, with blanks around it, a sign, and single
  underscores between digits.
-/

namespace FleetToken

/-- The zero of each run of ten decimal digits, ascending. -/
def decimalZeros : List Nat :=
  [0x30, 0x660, 0x6F0, 0x7C0, 0x966, 0x9E6, 0xA66, 0xAE6, 0xB66, 0xBE6, 0xC66, 0xCE6, 0xD66, 0xDE6,
   0xE50, 0xED0, 0xF20, 0x1040, 0x1090, 0x17E0, 0x1810, 0x1946, 0x19D0, 0x1A80, 0x1A90, 0x1B50,
   0x1BB0, 0x1C40, 0x1C50, 0xA620, 0xA8D0, 0xA900, 0xA9D0, 0xA9F0, 0xAA50, 0xABF0, 0xFF10, 0x104A0,
   0x10D30, 0x11066, 0x110F0, 0x11136, 0x111D0, 0x112F0, 0x11450, 0x114D0, 0x11650, 0x116C0,
   0x11730, 0x118E0, 0x11950, 0x11C50, 0x11D50, 0x11DA0, 0x16A60, 0x16AC0, 0x16B50, 0x1D7CE,
   0x1D7D8, 0x1D7E2, 0x1D7EC, 0x1D7F6, 0x1E140, 0x1E2F0, 0x1E950, 0x1FBF0]

/-- The value of a decimal digit of any script. -/
def CodePoint.decimalDigit? (c : CodePoint) : Option Nat :=
  decimalZeros.findSome? fun start =>
    if start ≤ c.val && c.val < start + 10 then some (c.val - start) else none

namespace Text

/-- The digits of a numeral, where a single underscore may stand between two of them. -/
def readDigits? (digit : CodePoint → Option Nat) : Text → Option (List Nat)
  | [] => none
  | [c] => (digit c).map ([·])
  | c :: sep :: rest => do
    let d ← digit c
    if sep = CodePoint.ofChar '_' then return d :: (← readDigits? digit rest)
    else return d :: (← readDigits? digit (sep :: rest))

/-- The sign in front of a numeral and what follows it; no sign means a positive number. -/
def readSign (t : Text) : Bool × Text :=
  match t with
  | [] => (false, [])
  | c :: rest =>
    if c = CodePoint.ofChar '-' then (true, rest)
    else if c = CodePoint.ofChar '+' then (false, rest)
    else (false, c :: rest)

/-- The longest numeral that is read as an integer, in digits. -/
def maxIntDigits : Nat := 4300

/-- The number that digits write in base ten. -/
def ofDigits (digits : List Nat) : Nat :=
  digits.foldl (fun n d => 10 * n + d) 0

/-- The integer `n` with the sign read before it. -/
def signed (negative : Bool) (n : Nat) : Int :=
  if negative then -(n : Int) else n

/-- The integer that a text writes: white space around it is skipped, a sign may come first,
digits may be of any script, and a single underscore may stand between two digits. Numerals of
more than `maxIntDigits` digits are refused. -/
def readInt? (t : Text) : Option Int := do
  let body := trimBy (fun c => c.isBlank && !c.isInformationSeparator) t
  let (negative, numeral) := readSign body
  let digits ← readDigits? CodePoint.decimalDigit? numeral
  if digits.length ≤ maxIntDigits then return signed negative (ofDigits digits) else none

end Text

end FleetToken
