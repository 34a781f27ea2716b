import FleetToken.Claims.Field

/-!
# The wire form of claims

A token carries the fields of its claims that are present, in order and under their wire names.
Dates are whole seconds, and the naive ones are counted by the clock of the place where the program
runs. Numbers that JSON lacks become `null`. A lone surrogate in a key of a field becomes three
replacement characters; deeper in an extension no key may hold one, and values are nested to a
limited depth.

## Main definitions

- `WireFault`: why claims have no wire form.
- `Claims.render`: the members of claims under either name, with or without the absent fields.
- `Claims.payload`: the members that a token carries.
-/

namespace FleetToken

/-- Why claims have no wire form. -/
inductive WireFault where
  /-- A date is not an instant that can be counted in seconds. -/
  | dateUncountable
  /-- A key inside an extension holds a lone surrogate. -/
  | keyUnencodable
  /-- An extension is nested too deeply. -/
  | tooDeep
deriving DecidableEq

/-- The most levels of values below a key of the extensions, the innermost value included. -/
def maxLevels : Nat := 255

mutual

/-- A value inside an extension as it is written, on the first of `levels` levels. -/
def Json.wire (levels : Nat) (value : Json) : Except WireFault Json :=
  if levels = 0 then .error .tooDeep
  else
    match value with
    | .float x => .ok (if x.isFinite then .float x else .null)
    | .array items => (wireItems (levels - 1) items).map .array
    | .object members => (wireMembers (levels - 1) members).map .object
    | .null => .ok .null
    | .bool b => .ok (.bool b)
    | .int n => .ok (.int n)
    | .string t => .ok (.string t)

/-- The items of a list as they are written. -/
def wireItems (levels : Nat) : List Json → Except WireFault (List Json)
  | [] => .ok []
  | item :: items => do
    let item ← item.wire levels
    return item :: (← wireItems levels items)

/-- The members of an object inside an extension as they are written. -/
def wireMembers (levels : Nat) : List (Text × Json) → Except WireFault (List (Text × Json))
  | [] => .ok []
  | (key, value) :: rest => do
    -- Only the keys at the top of the extensions have their surrogates replaced.
    if key.any CodePoint.isSurrogate then throw .keyUnencodable
    let value ← value.wire levels
    return (key, value) :: (← wireMembers levels rest)

end

/-- The extensions as they are written; keys that have become equal are joined. -/
def wireExtensions (extensions : Members) : Except WireFault Members := do
  return Members.ofList (← extensions.mapM fun (key, value) =>
    return (key.replaceSurrogates, ← value.wire maxLevels))

/-- A value as it is written, where naive dates are readings of a local clock. -/
def FieldValue.wire (value : FieldValue) (zone : LocalZone := .utc) : Except WireFault Json :=
  match value with
  | .purpose p => .ok (.string p.text)
  | .text t => .ok (.string t)
  | .flag b => .ok (.bool b)
  | .date t =>
    match t.wireSeconds? zone with
    | some seconds => .ok (.int seconds)
    | none => .error .dateUncountable
  | .texts ts => .ok (.array (ts.map .string))
  | .properties entries =>
    .ok (.object (Members.ofList (entries.map fun (key, t) => (key.replaceSurrogates, .string t))))
  | .flags named => .ok (.object (named.map fun (name, b) => (Text.ofString name, .bool b)))
  | .members extensions => (wireExtensions extensions).map .object

/-- The written value of a field, with `null` for an absent one. -/
def Field.wire (f : Field) (zone : LocalZone := .utc) : Except WireFault Json :=
  match f.value with
  | some value => value.wire zone
  | none => .ok .null

namespace Claims

/-- The members of claims under wire names or under plain ones, without the absent fields if so
wished. Of several faults the first one in the order of the fields counts. -/
def render (c : Claims) (byWireName withoutAbsent : Bool) (zone : LocalZone := .utc) :
    Except WireFault Members :=
  (c.fields.filter fun f => !withoutAbsent || f.value.isSome).mapM fun f =>
    (f.wire zone).map fun value =>
      (Text.ofString (if byWireName then f.name.wire else f.name.name), value)

/-- The members that a token with these claims carries. -/
def payload (c : Claims) (zone : LocalZone := .utc) : Except WireFault Members :=
  c.render true true zone

end Claims

end FleetToken
