import FleetToken.Proofs.Claims.FixedPoint
import FleetToken.Proofs.Claims.TwoPhases
import FleetToken.Proofs.Time.Truncation

/-!
# Payloads that are decoded

Claims whose dates are instants have a payload, unless an extension has no written form. Whatever
numbers stand for the dates, they are read as dates again. So the payload is decoded into claims
that differ in their dates at most, and in keys that cannot be written as they are.

## Main definitions

* `Claims.HasInstants`: all dates are instants in the years that are represented.

## Main results

* `Claims.exists_payload`: claims without extensions have a payload.
* `Claims.exists_decode_of_payload`: what the payload of claims is decoded into.
-/

namespace FleetToken

/-- An instant has a number of seconds, the same in every zone. -/
theorem Timestamp.exists_wireSeconds? {t : Timestamp} (h : t.offset ≠ none) :
    ∃ n, ∀ zone, t.wireSeconds? zone = some n := by
  obtain ⟨offset, hoffset⟩ := Option.ne_none_iff_exists'.mp h
  have hinstant : t.instant? = some (t.wall - offset.micros) := by
    rw [instant?, hoffset, Option.map_some]
  exact ⟨_, fun zone =>
    wireSeconds?_eq_some_iff.mpr ⟨_, utcMicros?_of_instant? hinstant zone, rfl⟩⟩

/-- A date is read from what is written for it, if this is read as any date. -/
theorem Reading.exists_field_date_ofFields {fields : List Field}
    (happart : (fields.map Field.name).Pairwise FieldName.Apart) {name : FieldName}
    {t : Option Timestamp} (hmem : ⟨name, t.map .date⟩ ∈ fields)
    (hread : ∀ date, t = some date →
      ∃ found, Timestamp.ofJson (FieldValue.date date).json = .ok found) :
    ∃ found, field (Members.ofFields fields) name none (optional Timestamp.ofJson) = .ok found := by
  have hentry := Members.member?_ofFields happart hmem
  cases t with
  | none => exact ⟨none, field_of_none hentry⟩
  | some date =>
    obtain ⟨found, hfound⟩ := hread date rfl
    refine ⟨some found, field_of_some hentry ?_⟩
    rw [optional_json, hfound, Checked.map_ok]

namespace Claims

variable {c : Claims} {payload : Members}

/-- All dates are instants. -/
def HasInstants (c : Claims) : Prop :=
  ∀ claim t, c.envelope.time? claim = some t → t.offset ≠ none

/-- The only dates among the values of fields are those of the envelope. -/
theorem exists_time?_of_mem_fields {f : Field} (hf : f ∈ c.fields) {t : Timestamp}
    (hvalue : f.value = some (.date t)) : ∃ claim, c.envelope.time? claim = some t := by
  have hsame : c.withDates c.envelope.time? = c := by
    cases c <;> rfl
  rw [← hsame] at hf
  rcases mem_fields_of_withDates hf with ⟨claim, hdate⟩ | ⟨-, hnone⟩
  · rw [hvalue, eq_comm, Option.map_eq_some_iff] at hdate
    obtain ⟨date, hdate, heq⟩ := hdate
    obtain rfl := FieldValue.date.inj heq
    exact ⟨claim, hdate⟩
  · exact absurd hvalue (hnone t)

/-- Only the envelope of claims has dates. -/
theorem withDates_eq_withEnvelope (c : Claims) (date? : TimeClaim → Option Timestamp) :
    c.withDates date? = c.withEnvelope (c.envelope.withDates date?) := by
  cases c <;> rfl

/-- Claims whose dates are instants have the same payload in every zone. -/
theorem payload_of_hasInstants (hdates : c.HasInstants) (zone : LocalZone) :
    c.payload zone = c.payload := by
  refine mapM_congr fun f hf => congrArg _ ?_
  cases hvalue : f.value with
  | none => rw [Field.wire, Field.wire, hvalue]
  | some value =>
    rw [Field.wire, Field.wire, hvalue]
    cases value with
    | date t =>
      obtain ⟨claim, hclaim⟩ := exists_time?_of_mem_fields (List.mem_of_mem_filter hf) hvalue
      obtain ⟨n, hn⟩ := Timestamp.exists_wireSeconds? (hdates claim t hclaim)
      simp only [FieldValue.wire, hn]
    | _ => rfl

/-- Of the values of claims only naive dates and extensions can lack a written form. -/
theorem exists_payload (hdates : c.HasInstants) (hnone : c.extensions? = none) :
    ∃ payload, ∀ zone, c.payload zone = .ok payload := by
  -- The zone makes no difference to instants.
  suffices h : ∃ payload, c.payload = .ok payload by
    obtain ⟨payload, hpayload⟩ := h
    exact ⟨payload, fun zone => (payload_of_hasInstants hdates zone).trans hpayload⟩
  refine exists_mapM_eq_ok fun f hf => ?_
  obtain ⟨hf, hpresent⟩ := List.mem_filter.mp hf
  obtain ⟨value, hvalue⟩ := Option.isSome_iff_exists.mp hpresent
  have hwritten : ∃ json, value.wire = .ok json := by
    cases value with
    | date t =>
      obtain ⟨claim, hclaim⟩ := exists_time?_of_mem_fields hf hvalue
      obtain ⟨n, hn⟩ := Timestamp.exists_wireSeconds? (hdates claim t hclaim)
      exact ⟨.int n, FieldValue.wire_date_eq_ok_iff.mpr ⟨n, hn .utc, rfl⟩⟩
    | members extensions =>
      have hsome := extensions?_of_mem_fields hf hvalue
      rw [hnone] at hsome
      contradiction
    | _ => exact ⟨_, rfl⟩
  obtain ⟨json, hjson⟩ := hwritten
  have hwire : f.wire = .ok json := by
    rw [Field.wire, hvalue]
    exact hjson
  exact ⟨_, map_eq_ok_iff.mpr ⟨json, hwire, rfl⟩⟩

/-- What the payload of claims is decoded into: all but the dates and the keys stay as they are. -/
theorem exists_decode_of_payload (hdates : c.HasInstants) (hkind : c.type ≠ .standard)
    (hpurpose : c.envelope.purpose = c.type.purpose) (hfloats : c.FloatFree)
    (h : c.payload = .ok payload) :
    ∃ date?, decode (.object payload) = .ok (c.replaceKeys.withDates date?) := by
  have hpayload := eq_ofFields_of_payload hfloats h
  have happart := c.replaceKeys.apart_fields
  -- Each date that is written is read back as some date, perhaps as another one.
  have hread (claim : TimeClaim) : ∃ found, Reading.field payload claim.fieldName none
      (Reading.optional Timestamp.ofJson) = .ok found := by
    rw [hpayload]
    refine Reading.exists_field_date_ofFields happart (mem_fields_time _ claim) fun t ht => ?_
    rw [envelope_replaceKeys] at ht
    obtain ⟨n, hn⟩ := Timestamp.exists_wireSeconds? (hdates claim t ht)
    rw [FieldValue.json, hn]
    exact Timestamp.exists_ofJson_of_wireSeconds? (hn .utc)
  choose date? hdate? using hread
  have hstated : payload.get? (Text.ofString "purpose") = some (.string c.type.purpose.text) := by
    have hmem : ⟨.purpose, some (.purpose c.envelope.purpose)⟩ ∈ c.fields :=
      mem_fields_of_mem_envelope List.mem_cons_self
    rw [← hpurpose]
    exact get?_of_payload h hmem
  have hmembers : ofMembers c.type payload = .ok (c.replaceKeys.withDates date?) := by
    rw [hpayload] at hdate? ⊢
    rw [withDates_eq_withEnvelope, ← type_replaceKeys]
    exact ofMembers_ofFields (Reading.envelope_ofFields_of_dates happart
      (fun f hf => mem_fields_of_mem_envelope hf) hdate? _)
  have hdecoded : decodeAs c.type (.object payload) = .ok (c.replaceKeys.withDates date?) :=
    (decodeAs_eq_ok_iff (ClaimsType.purpose_ne_unknown hkind)).mpr ⟨hmembers, .inr hstated⟩
  exact ⟨date?, decode_eq_ok_iff.mpr ⟨c.type, hkind, hstated, hdecoded⟩⟩

end Claims

end FleetToken
