/-!
# Room on the call stack

Nested values are read and printed by functions that call themselves, once for each level. The call
stack has room for a number of levels, which depends on how deep the caller stands already. Where no
room is given, every value has room.

## Main definitions

- `Room`: the levels that the stack has room for.
- `Stack`: the room at each of the places where a token is looked at.
-/

namespace FleetToken

/-- How many levels a function that calls itself can go in before the call stack is exhausted. -/
inductive Room where
  /-- Every value has room. -/
  | unlimited
  /-- A number of levels has room and no more. -/
  | levels (count : Nat)
deriving DecidableEq

namespace Room

/-- Whether a number of levels has room. -/
def holds : Room → Nat → Bool
  | .unlimited, _ => true
  | .levels count, n => n ≤ count

/-- The room that is left one level further in, if that level has room. -/
def inner? : Room → Option Room
  | .unlimited => some .unlimited
  | .levels 0 => none
  | .levels (count + 1) => some (.levels count)

end Room

/-- The room at the places where a token is looked at. They stand at different depths of calls, so
the room differs. -/
structure Stack where
  /-- Where the header is read. -/
  header : Room := .unlimited
  /-- Where verification reads the header once more, before it looks at the signature. -/
  headerAgain : Room := .unlimited
  /-- Where the payload is read. -/
  payload : Room := .unlimited
  /-- Where a purpose is looked up. -/
  purpose : Room := .unlimited

end FleetToken
