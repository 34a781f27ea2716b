import FleetToken.Bytes.Base64
import FleetToken.Error
import FleetToken.Json.Printer
import FleetToken.Json.Reader

/-!
# The compact form of tokens

A token is a header, a payload and a signature in Base64 with dots between them. The signature is
over the first two segments as they are written. This module reads tokens strictly: every segment
has one written form, up to padding, and the header has no entries that change the meaning of the
others.

## Main definitions

- `TokenInput`: a token as it is handed in.
- `CompactToken`: the parts of a token; `CompactToken.ofInput` reads them.
- `Json.readObject`: the object in a part of a token, or how it is reported that there is none.
- `Header`: names that the library gives a meaning in headers.
- `compactText`: the text of a token from its parts.
-/

namespace FleetToken

/-- A token as it is handed in. -/
inductive TokenInput where
  | text (t : Text)
  | bytes (b : Bytes)
  /-- A value that is neither. -/
  | other
deriving DecidableEq

/-- The dot between segments. -/
def segmentDot : UInt8 := 0x2E

/-- The parts of a token. -/
structure CompactToken where
  header : Members
  /-- The first two segments as they are written, which the signature is over. -/
  signingInput : Bytes
  payload : Bytes
  signature : Bytes

namespace Json

/-- The cause that a fault of a JSON document is; an exhausted stack is none. -/
def Fault.cause? : Json.Fault → Option Cause
  | .undecodable => some .undecodableText
  | .malformed => some .malformedJson
  | .tooManyDigits => some .badValue
  | .tooDeep => none

/-- The failure that a fault of a JSON document is, where faults with a cause are reported of a
token. An exhausted stack is not reported but ends everything. -/
def Fault.failure (report : Cause → InvalidTokenFault) (fault : Json.Fault) : Failure :=
  match fault.cause? with
  | some cause => .token (.invalidToken (report cause))
  | none => .stackExhausted

/-- The members of the object that bytes write. How it is reported that there is none depends on the
part of the token that the bytes are. -/
def readObject (bytes : Bytes) (room : Room) (report : Cause → InvalidTokenFault)
    (notObject : InvalidTokenFault) : Except Failure Members :=
  match decode bytes room with
  | .error fault => .error (fault.failure report)
  | .ok (.object members) => .ok members
  | .ok _ => .error (.token (.invalidToken notObject))

end Json

/-- The failure that a fault in the structure of a token is. -/
def StructureFault.failure (fault : StructureFault) : Failure :=
  .token (.invalidToken (.malformed fault))

namespace CompactToken

/-- The segments around the first and the last dot; what stands between these is one segment, with
whatever dots it holds. -/
def segments? (token : Bytes) : Option (Bytes × Bytes × Bytes) := do
  let (header, rest) ← Bytes.cut? [segmentDot] token
  -- The last dot may be the first one, and then there are only two segments.
  let last := (rest.reverse.takeWhile (· ≠ segmentDot)).reverse
  if segmentDot ∈ rest then
    return (header, rest.take (rest.length - last.length - 1), last)
  else none

/-- The bytes that a segment writes. -/
def segmentBytes (segment : Segment) (written : Bytes) : Except StructureFault Bytes :=
  match Base64.decode? .url written with
  | some bytes => .ok bytes
  | none => .error (.padding segment)

/-- The members that the bytes of a header write. -/
def headerMembers (bytes : Bytes) (room : Room) : Except Failure Members :=
  Json.readObject bytes room (fun cause => .malformed (.headerUnreadable cause))
    (.malformed .headerNotObject)

/-- The entry of a header under a name. -/
def entry? (header : Members) (name : String) : Option Json :=
  header.get? (Text.ofString name)

/-- Whether a header says that the payload is not part of the token. -/
def isDetached (header : Members) : Bool :=
  match entry? header "b64" with
  | some (.bool false) => true
  | _ => false

/-- Whether a header lists an extension as critical. -/
def listsCritical (header : Members) (name : String) : Bool :=
  match entry? header "crit" with
  | some (.array names) => names.any fun listed => listed.string? == some (Text.ofString name)
  | _ => false

/-- Checks that the listed critical extensions are known and present. The one that is known says
whether the payload is written in Base64. -/
def checkCritical (header : Members) : List Json → Except StructureFault Unit
  | [] => .ok ()
  | .string name :: rest =>
    if name ≠ Text.ofString "b64" then .error (.criticalUnknown name)
    else if header.hasKey name then checkCritical header rest
    else .error (.criticalAbsent name)
  | _ :: _ => .error .criticalNotText

/-- Checks the entries of a header that name a key and list critical extensions. -/
def checkHeader (header : Members) : Except StructureFault Unit := do
  match entry? header "kid" with
  | none | some (.string _) => pure ()
  | some _ => throw .keyIdNotText
  match entry? header "crit" with
  | none => return ()
  | some (.array (name :: names)) => checkCritical header (name :: names)
  | some _ => throw .criticalNotList

/-- The parts of a token in bytes. -/
def ofBytes (token : Bytes) (room : Room := .unlimited) : Except Failure CompactToken := do
  match segments? token with
  | none => throw StructureFault.missingSegments.failure
  | some (headerSegment, payloadSegment, signatureSegment) =>
    let headerBytes ← (segmentBytes .header headerSegment).mapError (·.failure)
    let header ← headerMembers headerBytes room
    if isDetached header ∧ payloadSegment ≠ [] then throw StructureFault.payloadNotEmpty.failure
    let payload ← (segmentBytes .payload payloadSegment).mapError (·.failure)
    let signature ← (segmentBytes .signature signatureSegment).mapError (·.failure)
    -- The header is looked at again only after all three segments have been read.
    (checkHeader header).mapError (·.failure)
    return {
      header
      signingInput := headerSegment ++ segmentDot :: payloadSegment
      payload
      signature }

/-- The parts of a token as it is handed in. A text with a lone surrogate has no bytes. -/
def ofInput (token : TokenInput) (room : Room := .unlimited) : Except Failure CompactToken :=
  match token with
  | .text t =>
    match t.encodeUtf8? with
    | some bytes => ofBytes bytes room
    | none => .error .unencodableText
  | .bytes bytes => ofBytes bytes room
  | .other => .error StructureFault.notText.failure

end CompactToken

/-- ASCII bytes as text. -/
def Text.ofAscii (bytes : Bytes) : Text :=
  bytes.map fun b => .ofNat b.toNat

/-- The segment that writes a JSON value. -/
def jsonSegment (value : Json) : Bytes :=
  Base64.encode .url value.compact.toUtf8

/-- What is signed: the segments of a header and a payload with a dot between them. -/
def signingInput (header payload : Json) : Bytes :=
  jsonSegment header ++ segmentDot :: jsonSegment payload

/-- The text of a token whose first two segments are `input`. -/
def compactText (input signature : Bytes) : Text :=
  .ofAscii (input ++ segmentDot :: Base64.encode .url signature)

end FleetToken
