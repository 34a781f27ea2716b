import FleetToken.Bytes.Base64
import FleetToken.Text.Blank
import FleetToken.Text.Utf8

/-!
# PEM

Binary keys in text: blocks between a BEGIN and an END line of the same label, with headers in
front of a blank line and Base64 after it. Whatever stands between blocks is skipped, and so is
white space in the data.

## Main definitions

- `Pem.Block`: a label, headers and bytes.
- `Pem.scan?`: the search for the marks around a block.
- `Pem.firstBlock?`, `Pem.blocks?`: the first block and all blocks of a document.
- `Pem.Block.encode`: a block in lines of sixty-four characters.
-/

namespace FleetToken.Pem

/-- A block of a document. -/
structure Block where
  /-- What kind of thing the block holds. -/
  label : Text
  /-- Names with values, in order. -/
  headers : List (Text × Text)
  /-- The bytes that the block holds. -/
  contents : Bytes
deriving DecidableEq

/-- A block as it stands in a document. -/
structure Frame where
  /-- The label of the BEGIN line. -/
  opening : Bytes
  /-- What stands between the two lines. -/
  body : Bytes
  /-- The label of the END line. -/
  closing : Bytes

/-- The dashes around a label. -/
def dashes : Bytes := Bytes.ofAscii "-----"

/-- What a BEGIN line starts with; without it there is no document. -/
def marker : Bytes := Bytes.ofAscii "-----BEGIN"

/-- The four blanks that are skipped after a line. -/
def isSkipped (b : UInt8) : Bool :=
  b == 0x20 || b == 0x09 || b == 0x0A || b == 0x0D

/-- What follows a mark of which `wanted` is left to be seen. At a byte that does not fit the whole
mark is wanted again behind that byte. -/
def scanFor (mark : Bytes) : Bytes → Bytes → Option Bytes
  | _, [] => none
  | [], rest => some rest
  | wanted :: more, b :: rest =>
    if b ≠ wanted then scanFor mark mark rest
    else if more = [] then some rest
    else scanFor mark more rest

/-- What stands before and after a mark, where a single pass finds it. A mark whose first bytes
stand in a broken one is missed. -/
def scan? (mark document : Bytes) : Option (Bytes × Bytes) :=
  (scanFor mark mark document).map fun rest =>
    (document.take (document.length - rest.length - mark.length), rest)

/-- The first complete frame of a document and what follows it. -/
def frame? (document : Bytes) : Option (Frame × Bytes) := do
  let (_, rest) ← scan? (Bytes.ofAscii "-----BEGIN ") document
  let (opening, rest) ← scan? dashes rest
  -- Blanks after the BEGIN line do not belong to the body.
  let (body, rest) ← scan? (Bytes.ofAscii "-----END ") (rest.dropWhile isSkipped)
  let (closing, rest) ← scan? dashes rest
  return (⟨opening, body, closing⟩, rest)

/-- The complete frames of a document, of which there are at most `count`. -/
def frames : Nat → Bytes → List Frame
  | 0, _ => []
  | count + 1, document =>
    match frame? document with
    | none => []
    | some (frame, rest) => frame :: frames count rest

/-- The headers and the data of a body, which a blank line parts. -/
def splitBody (body : Bytes) : Bytes × Bytes :=
  ((scan? [0x0A, 0x0A] body).or (scan? [0x0D, 0x0A, 0x0D, 0x0A] body)).getD ([], body)

/-- White space in data and at the ends of lines. -/
def isWhite (c : CodePoint) : Bool :=
  c.isBlank && !c.isInformationSeparator

/-- The lines of a text without white space at their ends. -/
def trimmedLines (t : Text) : List Text :=
  (Text.split (CodePoint.ofChar '\n') t).map (Text.trimEndBy isWhite)

/-- The name and the value of a header line. -/
def header? (line : Text) : Option (Text × Text) :=
  match Text.split (CodePoint.ofChar ':') line with
  | name :: value :: more =>
    some (Text.trimBy isWhite name,
      Text.trimBy isWhite (Text.join (CodePoint.ofChar ':') (value :: more)))
  | _ => none

/-- The block that a frame holds. Its two labels must agree and not be empty, each header needs a
colon, and the data must be padded Base64. -/
def Frame.block? (frame : Frame) : Option Block := do
  let label ← Text.ofUtf8? false frame.opening
  if label = [] ∨ frame.opening ≠ frame.closing then none
  else
    let (headerBytes, dataBytes) := splitBody frame.body
    let headerText ← Text.ofUtf8? false headerBytes
    let headers ← if headerText = [] then some [] else (trimmedLines headerText).mapM header?
    let data ← Text.ofUtf8? false dataBytes
    -- Data may be cut into lines of any length.
    let digits := Text.toUtf8 (data.filter fun c => !isWhite c)
    let contents ← Base64.decodePadded? .standard digits
    return ⟨label, headers, contents⟩

/-- The first block of a document; none if its first complete frame holds no block. -/
def firstBlock? (document : Bytes) : Option Block := do
  (← frame? document).1.block?

/-- The blocks of a document; none if one of its complete frames holds no block. -/
def blocks? (document : Bytes) : Option (List Block) :=
  (frames document.length document).mapM Frame.block?

/-- A block in lines of sixty-four characters, each with a line feed; headers are left out. -/
def Block.encode (block : Block) : Bytes :=
  let line (word : String) : Bytes :=
    Bytes.ofAscii word ++ block.label.toUtf8 ++ dashes ++ [0x0A]
  line "-----BEGIN "
    ++ (Bytes.blocks 64 (Base64.encodePadded .standard block.contents)).flatMap (· ++ [0x0A])
    ++ line "-----END "

end FleetToken.Pem
