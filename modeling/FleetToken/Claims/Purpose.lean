import FleetToken.Json.Basic
import FleetToken.Stack

/-!
# Purposes

The purpose of a token is the role that it authorizes. It stands in the claims as a text.

## Main definitions

- `Purpose`, with `Purpose.text` and `Purpose.ofJson`.
- `Purpose.lookup?`: the purpose of a value, looked up with some room on the stack.
-/

namespace FleetToken

/-- The role that a token authorizes. -/
inductive Purpose where
  /-- No role that is known. -/
  | unknown
  /-- A server asks to be provisioned. -/
  | provisioning
  /-- A user's client. -/
  | client
  /-- A server of the fleet. -/
  | server
deriving DecidableEq

namespace Purpose

/-- All purposes. -/
def all : List Purpose :=
  [.unknown, .provisioning, .client, .server]

/-- The name of a purpose in claims. -/
def name : Purpose → String
  | .unknown => ""
  | .provisioning => "choria_provisioning"
  | .client => "choria_client_id"
  | .server => "choria_server"

/-- The text of a purpose in claims. -/
def text (p : Purpose) : Text :=
  Text.ofString p.name

/-- The purpose that a text names exactly. -/
def ofText (t : Text) : Purpose :=
  if t = provisioning.text then .provisioning
  else if t = client.text then .client
  else if t = server.text then .server
  else .unknown

/-- The purpose that a value names; values other than texts name none. -/
def ofJson : Json → Purpose
  | .string t => ofText t
  | _ => .unknown

/-- Whether a value is the text of a purpose. -/
def isListed (value : Json) : Bool :=
  all.any fun purpose => value.string? == some purpose.text

/-- The purpose that is found for a value. A value that is not listed names none, but it is printed
to say so, with a call for each of its levels, and these need room. -/
def lookup? (value : Json) (room : Room) : Option Purpose :=
  if isListed value || room.holds value.levels then some (ofJson value) else none

/-- The purpose that the claims of a token state. -/
def ofMembers (members : Members) : Purpose :=
  match members.get? (Text.ofString "purpose") with
  | some value => ofJson value
  | none => .unknown

/-- The purpose that is found in the claims of a token; claims without one are asked for that of
`null`. -/
def find? (members : Members) (room : Room) : Option Purpose :=
  lookup? ((members.get? (Text.ofString "purpose")).getD .null) room

end Purpose

end FleetToken
