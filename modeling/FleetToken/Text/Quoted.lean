import FleetToken.Text.Printable

/-!
# Quoted text

A text inside a message stands between quotes on one line: printable code points stand for
themselves, all others are written as escapes.

## Main definitions

- `Text.quoted`: the quoted form.
-/

namespace FleetToken

namespace Text

/-- The last `width` hexadecimal digits of `n`. -/
def hexDigits : Nat → Nat → Text
  | 0, _ => []
  | width + 1, n => hexDigits width (n / 16) ++ [CodePoint.hexDigit (n % 16)]

/-- One code point between the given quotes. -/
def quotedCodePoint (quote c : CodePoint) : Text :=
  if c = quote ∨ c = CodePoint.ofChar '\\' then [CodePoint.ofChar '\\', c]
  else if c = CodePoint.ofChar '\n' then ofString "\\n"
  else if c = CodePoint.ofChar '\r' then ofString "\\r"
  else if c = CodePoint.ofChar '\t' then ofString "\\t"
  else if c.isPrintable then [c]
  else if c.val < 0x100 then ofString "\\x" ++ hexDigits 2 c.val
  else if c.val < 0x10000 then ofString "\\u" ++ hexDigits 4 c.val
  else ofString "\\U" ++ hexDigits 8 c.val

/-- The quote put around a text: a single one, unless the text holds single quotes and no
double ones. -/
def quoteFor (t : Text) : CodePoint :=
  let single := CodePoint.ofChar '\''
  let double := CodePoint.ofChar '"'
  if t.contains single && !(t.contains double) then double else single

/-- The text between quotes, with escapes for the quote, the backslash and all that is not
printable. -/
def quoted (t : Text) : Text :=
  let quote := quoteFor t
  quote :: t.flatMap (quotedCodePoint quote) ++ [quote]

end Text

end FleetToken
