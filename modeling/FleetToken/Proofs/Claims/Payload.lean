import FleetToken.Proofs.Claims.RoundTrip

/-!
# Payloads member by member

The payload of claims, if they have one, has the wire names of the present fields as its keys, and
what is written for each value under them.

## Main results

* `Claims.keys_of_payload`: the keys of a payload.
* `Claims.get?_of_payload`: what stands under the wire name of a field.
* `Claims.exists_seconds_of_payload`: what stands under a time claim.
-/

namespace FleetToken

/-- A date is written as its seconds, if it has any. -/
theorem FieldValue.wire_date_eq_ok_iff {t : Timestamp} {json : Json} {zone : LocalZone} :
    (date t).wire zone = .ok json ↔ ∃ n, t.wireSeconds? zone = some n ∧ json = .int n := by
  simp only [wire]
  split
  · rename_i n hn
    simp [hn, eq_comm]
  · rename_i hnone
    simp [hnone]

namespace Claims

variable {zone : LocalZone}

/-- Fields are written under their names, those without a value left out. -/
theorem keys_of_render {fields : List Field} {written : Members}
    (h : ((fields.filter fun f => f.value.isSome).mapM fun f =>
      (f.wire zone).map fun value => (Text.ofString f.name.wire, value)) = .ok written) :
    written.keys = Members.keys (Members.ofFields fields) := by
  induction fields generalizing written with
  | nil =>
    obtain rfl := Except.ok.inj h
    rfl
  | cons f fields ih =>
    obtain ⟨name, value⟩ := f
    -- An absent field is left out on both sides.
    cases value with
    | none => exact ih h
    | some value =>
      rw [List.filter_cons_of_pos rfl, List.mapM_cons] at h
      obtain ⟨first, hfirst, h⟩ := bind_eq_ok_iff.mp h
      obtain ⟨rest, hrest, h⟩ := bind_eq_ok_iff.mp h
      obtain ⟨json, -, rfl⟩ := map_eq_ok_iff.mp hfirst
      obtain rfl := Except.ok.inj h
      rw [Members.keys_cons, ih hrest]
      rfl

variable {c : Claims} {payload : Members} (h : c.payload zone = .ok payload)
include h

/-- The keys of a payload are the wire names of the fields that are present. -/
theorem keys_of_payload : payload.keys = Members.keys (Members.ofFields c.fields) :=
  keys_of_render h

/-- A payload states no claim twice. -/
theorem nodup_keys_of_payload : payload.keys.Nodup := by
  rw [keys_of_payload h]
  exact Members.nodup_keys_ofFields c.apart_fields

/-- If claims have a payload, each value has a written form, and this is a member. -/
theorem exists_wire_of_payload {f : Field} (hf : f ∈ c.fields) {value : FieldValue}
    (hvalue : f.value = some value) :
    ∃ json, value.wire zone = .ok json ∧ (Text.ofString f.name.wire, json) ∈ payload := by
  have hmem : f ∈ c.fields.filter fun f => !true || f.value.isSome :=
    List.mem_filter.mpr ⟨hf, by rw [hvalue]; rfl⟩
  obtain ⟨member, hmember, hwritten⟩ := exists_mem_of_mapM h hmem
  obtain ⟨json, hjson, rfl⟩ := map_eq_ok_iff.mp hwritten
  rw [Field.wire, hvalue] at hjson
  exact ⟨json, hjson, hmember⟩

/-- Each member is what is written for the value of a field, under its wire name. -/
theorem exists_field_of_mem_payload {member : Text × Json} (hmember : member ∈ payload) :
    ∃ f ∈ c.fields, ∃ value, f.value = some value ∧ value.wire zone = .ok member.2
      ∧ member.1 = Text.ofString f.name.wire := by
  obtain ⟨f, hf, hwritten⟩ := exists_item_of_mapM h hmember
  obtain ⟨hf, hpresent⟩ := List.mem_filter.mp hf
  obtain ⟨json, hjson, rfl⟩ := map_eq_ok_iff.mp hwritten
  obtain ⟨value, hvalue⟩ := Option.isSome_iff_exists.mp hpresent
  rw [Field.wire, hvalue] at hjson
  exact ⟨f, hf, value, hvalue, hjson, rfl⟩

/-- What is written for the value of a field stands under its wire name. -/
theorem get?_of_payload {f : Field} (hf : f ∈ c.fields) :
    payload.get? (Text.ofString f.name.wire)
      = f.value.bind fun value => (value.wire zone).toOption := by
  cases hvalue : f.value with
  | none =>
    refine Members.get?_eq_none_of_notMem ?_
    rw [keys_of_payload h]
    exact Members.notMem_keys_ofFields c.apart_fields hf hvalue (.inl rfl)
  | some value =>
    obtain ⟨json, hjson, hmem⟩ := exists_wire_of_payload h hf hvalue
    rw [Members.get?_of_mem (nodup_keys_of_payload h) hmem, Option.bind_some, hjson]
    rfl

/-- Nothing stands under a time claim without a date. -/
theorem get?_time_eq_none {claim : TimeClaim} (htime : c.envelope.time? claim = none) :
    payload.get? (Text.ofString claim.wire) = none := by
  rw [← claim.wire_fieldName, get?_of_payload h (mem_fields_time c claim), htime]
  rfl

/-- Under a time claim stand the whole seconds of its date. -/
theorem exists_seconds_of_payload {claim : TimeClaim} {t : Timestamp}
    (htime : c.envelope.time? claim = some t) :
    ∃ n, t.wireSeconds? zone = some n
      ∧ payload.get? (Text.ofString claim.wire) = some (.int n) := by
  have hmem := mem_fields_time c claim
  rw [htime] at hmem
  obtain ⟨json, hjson, -⟩ := exists_wire_of_payload h hmem rfl
  have hget := get?_of_payload h hmem
  obtain ⟨n, hn, rfl⟩ := FieldValue.wire_date_eq_ok_iff.mp hjson
  rw [claim.wire_fieldName, Option.map_some, Option.bind_some, hjson] at hget
  exact ⟨n, hn, hget⟩

end Claims

end FleetToken
