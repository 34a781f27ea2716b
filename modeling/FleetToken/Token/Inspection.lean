import FleetToken.Claims.Decoding
import FleetToken.Text.Blank
import FleetToken.Token.Compact

/-!
# Inspection

What a token says can be read without a key, to choose one. Nothing read this way is
authenticated. Segments are read leniently and the third one is not read at all.

## Main definitions

- `InspectedToken`, read by `InspectedToken.ofInput`.
- `TokenInput.purpose`, `TokenInput.signingAlgorithm`: shortcuts that answer for every text, also
  one that cannot be read. Only an exhausted stack ends them.
-/

namespace FleetToken

/-- What a token says, unverified. -/
structure InspectedToken where
  /-- The algorithm that the header names; empty if it is no text. -/
  algorithm : Text
  /-- The purpose that the payload states. -/
  purpose : Purpose
  /-- The members of the payload. -/
  payload : Members

/-- The text of a token. Malformed bytes are replaced. -/
def TokenInput.text? : TokenInput → Option Text
  | .text t => some t
  | .bytes b => some (Text.ofUtf8Replacing b)
  | .other => none

/-- The members that a segment writes, read leniently. -/
def inspectSegment (segment : Text) (room : Room := .unlimited) : Except Failure Members :=
  match segment.encodeUtf8? with
  | none => .error (.token (.invalidToken (.segmentUnreadable .unencodableText)))
  | some written =>
    match Base64.decodeLenient? written with
    | none => .error (.token (.invalidToken (.segmentUnreadable .malformedBase64)))
    | some bytes => Json.readObject bytes room .segmentUnreadable .segmentNotObject

/-- The header and payload segments of a token text, which must have three segments. Blanks around
the token are skipped. -/
def firstSegments (token : Text) : Except Failure (Text × Text) :=
  match Text.split (CodePoint.ofChar '.') token.trim with
  | [header, payload, _] => .ok (header, payload)
  | _ => .error (.token (.invalidToken .notThreeSegments))

/-- The members of the header. -/
def inspectHeader (token : Text) (room : Room := .unlimited) : Except Failure Members := do
  inspectSegment (← firstSegments token).1 room

/-- The members of the payload. -/
def inspectPayload (token : Text) (room : Room := .unlimited) : Except Failure Members := do
  inspectSegment (← firstSegments token).2 room

/-- The purpose that a payload states. -/
def inspectPurpose (payload : Members) (room : Room := .unlimited) : Except Failure Purpose :=
  match Purpose.find? payload room with
  | some purpose => .ok purpose
  | none => .error .stackExhausted

/-- The algorithm that a header names; empty if it is no text. -/
def statedAlgorithm (header : Members) : Text :=
  ((CompactToken.entry? header "alg").bind Json.string?).getD []

namespace InspectedToken

/-- What a token text says. -/
def ofText (token : Text) (stack : Stack := {}) : Except Failure InspectedToken := do
  let header ← inspectHeader token stack.header
  let payload ← inspectPayload token stack.payload
  let purpose ← inspectPurpose payload stack.purpose
  return ⟨statedAlgorithm header, purpose, payload⟩

/-- What a token says. -/
def ofInput (token : TokenInput) (stack : Stack := {}) : Except Failure InspectedToken :=
  match token.text? with
  | some t => ofText t stack
  | none => .error .notText

/-- The claims of a wanted kind in the payload. -/
def claimsAs (t : InspectedToken) (kind : ClaimsType) (room : Room := .unlimited) :
    Except Failure Claims :=
  Claims.decodeAs kind (.object t.payload) room

end InspectedToken

/-- The answer of a shortcut for a token that is refused as invalid is its default. Other failures
stay. -/
def orDefault {α : Type} (default : α) (answer : Except Failure α) : Except Failure α :=
  match answer with
  | .error (.token (.invalidToken _)) => .ok default
  | answer => answer

/-- The purpose that a token text states; the unknown one if it cannot be read. -/
def statedPurpose (token : Text) (stack : Stack := {}) : Except Failure Purpose :=
  orDefault .unknown do inspectPurpose (← inspectPayload token stack.payload) stack.purpose

/-- The algorithm that a token text names; empty if it cannot be read. -/
def namedAlgorithm (token : Text) (stack : Stack := {}) : Except Failure Text :=
  orDefault [] ((inspectHeader token stack.header).map statedAlgorithm)

namespace TokenInput

/-- The purpose that a token states. What is neither text nor bytes is refused. -/
def purpose (token : TokenInput) (stack : Stack := {}) : Except Failure Purpose :=
  match token.text? with
  | some t => statedPurpose t stack
  | none => .error .notText

/-- The algorithm that a token names. What is neither text nor bytes is refused. -/
def signingAlgorithm (token : TokenInput) (stack : Stack := {}) : Except Failure Text :=
  match token.text? with
  | some t => namedAlgorithm t stack
  | none => .error .notText

end TokenInput

end FleetToken
