import FleetToken.Error
import FleetToken.Text.Utf8

/-!
# Paths

A path is a text with solidi between names. It is followed from the working directory; two dots
lead back to the parent of a directory, one dot stays.

## Main definitions

- `Path`: the names of a path, how long it is written and whether a solidus ends it.
- `Path.ofText`: the path of a text, refused if no file can have it.
- `Path.normal`: the path in its shortest writing.
-/

namespace FleetToken

/-- A path as a list of names. -/
structure Path where
  /-- Whether the path starts at the root of the file system. -/
  absolute : Bool
  /-- The names on the way. -/
  names : List Text
  /-- Whether the last name is followed by a solidus. -/
  endsInSolidus : Bool
  /-- The number of bytes that the path is written with. -/
  length : Nat
deriving DecidableEq

namespace Path

/-- The most bytes that a name may have. -/
def maxNameBytes : Nat := 255

/-- The most bytes that a path may have. -/
def maxPathBytes : Nat := 4095

/-- A surrogate that stands for a byte that is no text. -/
def isByteEscape (c : CodePoint) : Bool :=
  0xDC80 ≤ c.val && c.val ≤ 0xDCFF

/-- The number of bytes of a name or a path. -/
def byteCount (name : Text) : Nat :=
  name.foldl (fun count c => count + if isByteEscape c then 1 else c.toUtf8.length) 0

/-- The path of a text. No path holds a NUL, and none a surrogate that stands for no byte. -/
def ofText (t : Text) : Except Failure Path :=
  let solidus := CodePoint.ofChar '/'
  if t.any fun c => c.isSurrogate && !isByteEscape c then .error .unencodableText
  else if t.any (·.val == 0) then .error .badPath
  else
    .ok {
      absolute := t.head? == some solidus
      names := (Text.split solidus t).filter (· ≠ [])
      endsInSolidus := t.getLast? == some solidus
      length := byteCount t }

/-- Whether the path is that of the empty text. -/
def isEmpty (p : Path) : Bool :=
  !p.absolute && p.names.isEmpty

/-- The name that stays in a directory. -/
def stay : Text := "."

/-- The name that leads to the parent of a directory. -/
def parent : Text := ".."

/-- The path without names that stay, with one solidus between two names and none at the end. -/
def normal (p : Path) : Path :=
  let names := p.names.filter (· ≠ stay)
  let solidi := names.length - 1 + if p.absolute then 1 else 0
  { p with names, endsInSolidus := false, length := (names.map byteCount).foldl (· + ·) solidi }

end Path

end FleetToken
