import FleetToken.Bytes.Basic
import FleetToken.Text.Basic

/-!
# UTF-8

Bytes are cut into encoded code points and malformed pieces, the longest that could still have
been continued. A strict reader refuses malformed pieces, a replacing one puts U+FFFD for each.
JSON documents are read with surrogates encoded as three bytes let through.

## Main definitions

- `Text.toUtf8`: the bytes of a text, surrogates as three bytes each.
- `Text.encodeUtf8?`: the bytes of a text that holds no surrogate.
- `Text.ofUtf8?`: the text of well-formed bytes.
- `Text.ofUtf8Replacing`: the text of any bytes, U+FFFD for each malformed piece.
-/

namespace FleetToken

/-- The bytes of one code point; a surrogate takes three bytes like its neighbours. -/
def CodePoint.toUtf8 (c : CodePoint) : Bytes :=
  let n := c.val
  let last (shift : Nat) : UInt8 := UInt8.ofNat (0x80 + (n >>> shift) % 0x40)
  if n < 0x80 then [UInt8.ofNat n]
  else if n < 0x800 then [UInt8.ofNat (0xC0 + n >>> 6), last 0]
  else if n < 0x10000 then [UInt8.ofNat (0xE0 + n >>> 12), last 6, last 0]
  else [UInt8.ofNat (0xF0 + n >>> 18), last 12, last 6, last 0]

namespace Utf8

/-- What stands at the front of some bytes: a code point or a malformed piece, and how many
bytes after the first one belong to it. -/
inductive Front where
  /-- An encoded code point. -/
  | codePoint (c : CodePoint) (more : Nat)
  /-- Bytes that encode nothing. -/
  | malformed (more : Nat)

/-- Whether a byte continues an encoded code point. -/
def isContinuation (b : UInt8) : Bool :=
  0x80 ≤ b && b < 0xC0

/-- The six bits that a continuation byte carries. -/
def continuationBits (b : UInt8) : Nat :=
  b.toNat % 0x40

/-- The range of the second byte after a given first one. With `surrogates` the encoded forms
of surrogates are let through. -/
def secondRange (surrogates : Bool) (lead : UInt8) : UInt8 × UInt8 :=
  if lead = 0xE0 then (0xA0, 0xBF)
  else if lead = 0xED then (0x80, if surrogates then 0xBF else 0x9F)
  else if lead = 0xF0 then (0x90, 0xBF)
  else if lead = 0xF4 then (0x80, 0x8F)
  else (0x80, 0xBF)

/-- The front of bytes that begin with `lead`. -/
def front (surrogates : Bool) (lead : UInt8) (rest : Bytes) : Front :=
  if lead < 0x80 then .codePoint (.ofNat lead.toNat) 0
  else if lead < 0xC2 || 0xF4 < lead then .malformed 0
  else
    let range := secondRange surrogates lead
    match rest with
    | [] => .malformed 0
    | second :: rest =>
      if second < range.1 || range.2 < second then .malformed 0
      else if lead < 0xE0 then
        .codePoint (.ofNat ((lead.toNat - 0xC0) * 0x40 + continuationBits second)) 1
      else
        match rest with
        | [] => .malformed 1
        | third :: rest =>
          if !isContinuation third then .malformed 1
          else if lead < 0xF0 then
            .codePoint (.ofNat (((lead.toNat - 0xE0) * 0x40 + continuationBits second) * 0x40
              + continuationBits third)) 2
          else
            match rest with
            | [] => .malformed 2
            | fourth :: _ =>
              if !isContinuation fourth then .malformed 2
              else
                .codePoint (.ofNat ((((lead.toNat - 0xF0) * 0x40 + continuationBits second) * 0x40
                  + continuationBits third) * 0x40 + continuationBits fourth)) 3

/-- The code points of some bytes, `none` for each malformed piece, after `skip` bytes that
belong to what came before. -/
def scan (surrogates : Bool) : Nat → Bytes → List (Option CodePoint)
  | _, [] => []
  -- Bytes that were read with their first one.
  | skip + 1, _ :: rest => scan surrogates skip rest
  | 0, lead :: rest =>
    match front surrogates lead rest with
    | .codePoint c more => some c :: scan surrogates more rest
    | .malformed more => none :: scan surrogates more rest

end Utf8

namespace Text

/-- The bytes of a text, with a surrogate written in three bytes. -/
def toUtf8 (t : Text) : Bytes :=
  t.flatMap CodePoint.toUtf8

/-- The bytes of a text, if no surrogate stands in it. -/
def encodeUtf8? (t : Text) : Option (Bytes) :=
  if t.any CodePoint.isSurrogate then none else some t.toUtf8

/-- The text that the bytes encode, if no piece of them is malformed. With `surrogates`
surrogates may be encoded in three bytes. -/
def ofUtf8? (surrogates : Bool) (bytes : Bytes) : Option Text :=
  (Utf8.scan surrogates 0 bytes).mapM id

/-- The text with each surrogate replaced by three U+FFFD, one for each of its bytes. -/
def replaceSurrogates (t : Text) : Text :=
  t.flatMap fun c => if c.isSurrogate then List.replicate 3 .replacement else [c]

/-- The text of any bytes, with U+FFFD in the place of each malformed piece. -/
def ofUtf8Replacing (bytes : Bytes) : Text :=
  (Utf8.scan false 0 bytes).map (·.getD .replacement)

end Text

end FleetToken
