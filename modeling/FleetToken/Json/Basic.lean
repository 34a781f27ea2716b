import FleetToken.Binary64.Basic
import FleetToken.Text.Basic

/-!
# JSON values

The documents in token segments. Integers and floating-point numbers are told apart, integers
have any size, and the members of an object keep the order in which their keys first came.

## Main definitions

- `Json`: a JSON value, with `Json.levels`.
- `Members`: the members of an object, with `Members.get?` and `Members.insert`.
-/

namespace FleetToken

/-- A JSON value. -/
inductive Json where
  /-- The value `null`. -/
  | null
  /-- A truth value. -/
  | bool (b : Bool)
  /-- A number written without a fraction or an exponent. -/
  | int (n : Int)
  /-- A number written with a fraction or an exponent. -/
  | float (x : Binary64)
  /-- A string. -/
  | string (t : Text)
  /-- A list of values. -/
  | array (items : List Json)
  /-- Values under keys. -/
  | object (members : List (Text × Json))

/-- The members of a JSON object: keys with their values, in the order in which the keys first
came. -/
abbrev Members := List (Text × Json)

namespace Members

/-- The value under a key. -/
def get? (members : Members) (key : Text) : Option Json :=
  members.lookup key

/-- Whether a key is present. -/
def hasKey (members : Members) (key : Text) : Bool :=
  (members.get? key).isSome

/-- Puts a value under a key. A key that is present keeps its place; a new one goes to the end. -/
def insert (members : Members) (key : Text) (value : Json) : Members :=
  match members with
  | [] => [(key, value)]
  | (k, v) :: rest => if k = key then (k, value) :: rest else (k, v) :: insert rest key value

/-- The members of an object written in the given order, where of two equal keys the later value
is kept. -/
def ofList (written : List (Text × Json)) : Members :=
  written.foldl (fun members (key, value) => insert members key value) []

end Members

namespace Json

/-- The text, if the value is a string. -/
def string? : Json → Option Text
  | .string t => some t
  | _ => none

mutual

/-- The levels of a value: one, and for an array or an object those of its deepest part besides. -/
def levels : Json → Nat
  | .array items => deepestItem items + 1
  | .object members => deepestMember members + 1
  | .null | .bool _ | .int _ | .float _ | .string _ => 1

/-- The levels of the deepest item of an array. -/
def deepestItem : List Json → Nat
  | [] => 0
  | item :: items => max item.levels (deepestItem items)

/-- The levels of the deepest value of an object. -/
def deepestMember : List (Text × Json) → Nat
  | [] => 0
  | (_, value) :: rest => max value.levels (deepestMember rest)

end

end Json

end FleetToken
