/-!
# Text

Text is a list of Unicode code points. A surrogate may stand alone in it: escapes in JSON can
put one into any claim, and such claims are read, compared and written like all others.

## Main definitions

- `CodePoint` and `Text`: code points, surrogates included, and lists of them.
- `Text.ofString`: the text of a string.
- `Text.WellFormed`: no surrogate stands in the text.
-/

namespace FleetToken

/-- A Unicode code point. Surrogates are code points too. -/
structure CodePoint where
  /-- The number of the code point. -/
  val : Nat
  /-- Code points end at U+10FFFF. -/
  isLt : val < 0x110000
deriving DecidableEq, Repr

namespace CodePoint

/-- The code point of a character. -/
def ofChar (c : Char) : CodePoint where
  val := c.toNat
  isLt := by
    have h := c.valid
    have e : c.val.toNat = c.toNat := rfl
    simp only [UInt32.isValidChar, Nat.isValidChar] at h
    rw [e] at h
    omega

instance : Coe Char CodePoint := ⟨ofChar⟩

/-- The replacement character U+FFFD. -/
def replacement : CodePoint := ⟨0xFFFD, by decide⟩

/-- The code point with number `n`, or U+FFFD if there is none. -/
def ofNat (n : Nat) : CodePoint :=
  if h : n < 0x110000 then ⟨n, h⟩ else replacement

/-- A half of a surrogate pair. -/
def isSurrogate (c : CodePoint) : Bool :=
  0xD800 ≤ c.val && c.val < 0xE000

/-- The first half of a surrogate pair. -/
def isHighSurrogate (c : CodePoint) : Bool :=
  0xD800 ≤ c.val && c.val < 0xDC00

/-- The second half of a surrogate pair. -/
def isLowSurrogate (c : CodePoint) : Bool :=
  0xDC00 ≤ c.val && c.val < 0xE000

/-- The code point that a surrogate pair stands for. -/
def ofPair (high low : CodePoint) : CodePoint :=
  ofNat (0x10000 + (high.val - 0xD800) * 0x400 + (low.val - 0xDC00))

/-- Whether the code point is one of the ASCII digits. -/
def isAsciiDigit (c : CodePoint) : Bool :=
  0x30 ≤ c.val && c.val ≤ 0x39

/-- The digit for `n`, which is below sixteen; letters are in lower case. -/
def hexDigit (n : Nat) : CodePoint :=
  if n < 10 then ofNat (0x30 + n) else ofNat (0x57 + n)

/-- The value of a hexadecimal digit in either letter case. -/
def hexValue? (c : CodePoint) : Option Nat :=
  if c.isAsciiDigit then some (c.val - 0x30)
  else if 0x61 ≤ c.val && c.val ≤ 0x66 then some (c.val - 0x57)
  else if 0x41 ≤ c.val && c.val ≤ 0x46 then some (c.val - 0x37)
  else none

/-- ASCII capitals become small letters and all else stays. -/
def toAsciiLower (c : CodePoint) : CodePoint :=
  if 0x41 ≤ c.val && c.val ≤ 0x5A then ofNat (c.val + 0x20) else c

end CodePoint

/-- A text: code points in order. -/
abbrev Text := List CodePoint

namespace Text

/-- The text of a string. -/
def ofString (s : String) : Text :=
  s.toList.map CodePoint.ofChar

instance : Coe String Text := ⟨ofString⟩

/-- No surrogate stands in the text, so that it can be written in UTF-8. -/
def WellFormed (t : Text) : Prop :=
  ∀ c ∈ t, c.isSurrogate = false

instance (t : Text) : Decidable t.WellFormed :=
  inferInstanceAs (Decidable (∀ c ∈ t, c.isSurrogate = false))

/-- The text with ASCII capitals made small. -/
def toAsciiLower (t : Text) : Text :=
  t.map CodePoint.toAsciiLower

/-- The pieces of `t` between the code points equal to `sep`, one more than there are of these. -/
def split (sep : CodePoint) : Text → List Text
  | [] => [[]]
  | c :: rest =>
    if c = sep then [] :: split sep rest
    else
      match split sep rest with
      | [] => [[c]]
      | piece :: pieces => (c :: piece) :: pieces

/-- The pieces one after another with `sep` between neighbours. -/
def join (sep : CodePoint) : List Text → Text
  | [] => []
  | [piece] => piece
  | piece :: pieces => piece ++ sep :: join sep pieces

/-- The decimal digits of a natural number. -/
def ofNat (n : Nat) : Text :=
  (Nat.toDigits 10 n).map CodePoint.ofChar

/-- The decimal form of an integer, with a minus sign below zero. -/
def ofInt : Int → Text
  | .ofNat n => ofNat n
  | .negSucc n => CodePoint.ofChar '-' :: ofNat (n + 1)

/-- The number that a run of ASCII digits writes; other code points count as zero digits. -/
def digitsValue (digits : Text) : Nat :=
  digits.foldl (fun n c => 10 * n + (c.val - 0x30)) 0

/-- What follows `front` in `t`, if `t` begins with it. -/
def after? (front t : Text) : Option Text :=
  match front, t with
  | [], rest => some rest
  | _ :: _, [] => none
  | f :: front, c :: rest => if f = c then after? front rest else none

end Text

end FleetToken
