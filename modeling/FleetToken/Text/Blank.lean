import FleetToken.Text.Basic

/-!
# Blanks

A blank is a code point of the Unicode property `White_Space`, or one of the four information
separators U+001C to U+001F. Tokens, seeds and broker URLs are read without the blanks around them.

## Main definitions

- `CodePoint.isBlank`: the property.
- `Text.trim`: a text without the blanks at its two ends.
-/

namespace FleetToken

/-- The blanks as closed ranges, ascending and apart. -/
def blankRanges : List (Nat × Nat) :=
  [(0x09, 0x0D), (0x1C, 0x20), (0x85, 0x85), (0xA0, 0xA0), (0x1680, 0x1680), (0x2000, 0x200A),
   (0x2028, 0x2029), (0x202F, 0x202F), (0x205F, 0x205F), (0x3000, 0x3000)]

/-- Whether a code point is a blank. -/
def CodePoint.isBlank (c : CodePoint) : Bool :=
  blankRanges.any fun range => range.1 ≤ c.val && c.val ≤ range.2

/-- The four separators U+001C to U+001F, which are blanks without being white space. -/
def CodePoint.isInformationSeparator (c : CodePoint) : Bool :=
  0x1C ≤ c.val && c.val ≤ 0x1F

namespace Text

/-- The text without the leading code points that satisfy `p`. -/
def trimStartBy (p : CodePoint → Bool) (t : Text) : Text :=
  t.dropWhile p

/-- The text without the trailing code points that satisfy `p`. -/
def trimEndBy (p : CodePoint → Bool) (t : Text) : Text :=
  (t.reverse.dropWhile p).reverse

/-- The text without the code points that satisfy `p` at its two ends. -/
def trimBy (p : CodePoint → Bool) (t : Text) : Text :=
  trimEndBy p (trimStartBy p t)

/-- The text without the blanks at its two ends. -/
def trim (t : Text) : Text :=
  trimBy CodePoint.isBlank t

end Text

end FleetToken
