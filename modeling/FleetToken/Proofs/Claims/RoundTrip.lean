import FleetToken.Claims.Decoding
import FleetToken.Proofs.Claims.Portable
import FleetToken.Proofs.Claims.Purpose

/-!
# Claims read back from their payload

Claims whose values are written as they stand have a payload with one member for each field that is
present. No name of a field is the wire name of another field, so every field is read from its own
member or not at all, and the payload is decoded into the same claims.

## Main definitions

* `Members.ofFields`: the members that are written for fields.
* `Members.present`: the members of a table in which values may be absent.
* `ClaimsType.fieldNames`: the names of the fields of a kind.
* `StandardClaims.withDates`, `Claims.withEnvelope`: claims with other dates or another envelope.
* `Claims.Canonical`: the claims that are decoded from their payload.
* `Claims.Portable`: the claims that come back from a token.

## Main results

* `Claims.ofMembers_ofFields`: what claims are read from what is written for some.
* `Claims.Canonical.payload_eq`: what a token with such claims carries.
* `Claims.Canonical.decodeAs_ofFields`: such claims are decoded from what the token carries.
* `Claims.Canonical.decode_ofFields`: and so they are when the payload decides on their kind.
-/

namespace FleetToken

/-! ## Members of fields -/

/-- The members that are written for fields, without the absent ones. -/
def Members.ofFields (fields : List Field) (zone : LocalZone := .utc) : Members :=
  fields.filterMap fun f => f.value.map fun value => (Text.ofString f.name.wire, value.json zone)

/-- The members of a table of names, without those that have no value. -/
def Members.present (table : List (String × Option Json)) : Members :=
  table.filterMap fun entry => entry.2.map fun value => (Text.ofString entry.1, value)

/-- Neither name of a field is the wire name of another one. -/
def FieldName.Apart (a b : FieldName) : Prop :=
  a.wire ≠ b.wire ∧ a.name ≠ b.wire ∧ b.name ≠ a.wire

instance : DecidableRel FieldName.Apart :=
  fun a b => inferInstanceAs (Decidable (a.wire ≠ b.wire ∧ a.name ≠ b.wire ∧ b.name ≠ a.wire))

instance : Std.Symm FieldName.Apart where
  symm _ _ h := ⟨h.1.symm, h.2.2, h.2.1⟩

namespace Members

/-- Each field that has a value is a member of the payload. -/
theorem mem_ofFields {fields : List Field} {f : Field} {value : FieldValue} (hf : f ∈ fields)
    (hvalue : f.value = some value) :
    (Text.ofString f.name.wire, value.json) ∈ ofFields fields :=
  List.mem_filterMap.mpr ⟨f, hf, by rw [hvalue]; rfl⟩

/-- The members are those of the fields that are present. -/
theorem exists_of_mem_ofFields {fields : List Field} {member : Text × Json}
    (h : member ∈ ofFields fields) : ∃ f ∈ fields, ∃ value, f.value = some value
      ∧ member = (Text.ofString f.name.wire, value.json) := by
  obtain ⟨f, hf, hwritten⟩ := List.mem_filterMap.mp h
  obtain ⟨value, hvalue, rfl⟩ := Option.map_eq_some_iff.mp hwritten
  exact ⟨f, hf, value, hvalue, rfl⟩

/-- The members that are written for fields are those of the table of what is written for their
values. -/
theorem ofFields_eq_present (fields : List Field) {zone : LocalZone} : ofFields fields zone
    = present (fields.map fun f => (f.name.wire, f.value.map (FieldValue.json zone))) := by
  rw [present, List.filterMap_map, ofFields]
  refine List.filterMap_congr fun f _ => ?_
  rw [Function.comp_apply, Option.map_map]
  rfl

/-- The members depend on the names of the fields and on what is written for their values. -/
theorem ofFields_congr {fields fields' : List Field} {zone zone' : LocalZone}
    (h : fields.map (fun f => (f.name, f.value.map (FieldValue.json zone)))
      = fields'.map fun f => (f.name, f.value.map (FieldValue.json zone'))) :
    ofFields fields zone = ofFields fields' zone' := by
  have htable (fields : List Field) (zone : LocalZone) :
      fields.map (fun f => (f.name.wire, f.value.map (FieldValue.json zone)))
        = (fields.map fun f => (f.name, f.value.map (FieldValue.json zone))).map
          fun written => (written.1.wire, written.2) := by
    rw [List.map_map]
    rfl
  rw [ofFields_eq_present, ofFields_eq_present, htable, h, ← htable]

/-- Canonical values are written alike in every zone. -/
theorem ofFields_of_canonical {fields : List Field}
    (h : ∀ f ∈ fields, ∀ value, f.value = some value → value.Canonical) (zone : LocalZone) :
    ofFields fields zone = ofFields fields := by
  refine ofFields_congr (List.map_congr_left fun f hf => congrArg _ ?_)
  cases hvalue : f.value with
  | none => rfl
  | some value => rw [Option.map_some, Option.map_some, (h f hf value hvalue).json_eq]

theorem ofFields_append (front back : List Field) :
    ofFields (front ++ back) = ofFields front ++ ofFields back :=
  List.filterMap_append

theorem present_append (front back : List (String × Option Json)) :
    present (front ++ back) = present front ++ present back :=
  List.filterMap_append

/-- Nothing stands under a name that a table does not have. -/
theorem get?_present_eq_none {table : List (String × Option Json)} {name : String}
    (h : name ∉ table.map Prod.fst) : (present table).get? (Text.ofString name) = none := by
  refine get?_eq_none_of_notMem fun hmem => h ?_
  obtain ⟨member, hmember, hkey⟩ := List.mem_map.mp hmem
  obtain ⟨entry, hentry, hpresent⟩ := List.mem_filterMap.mp hmember
  obtain ⟨value, -, rfl⟩ := Option.map_eq_some_iff.mp hpresent
  rw [← Text.ofString_injective hkey]
  exact List.mem_map_of_mem hentry

/-- Each key of the payload is the name of a field that has a value. -/
theorem exists_of_mem_keys_ofFields {fields : List Field} {key : Text}
    (h : key ∈ keys (ofFields fields)) :
    ∃ f ∈ fields, f.value ≠ none ∧ key = Text.ofString f.name.wire := by
  obtain ⟨member, hmember, rfl⟩ := List.mem_map.mp h
  obtain ⟨f, hf, value, hvalue, rfl⟩ := exists_of_mem_ofFields hmember
  exact ⟨f, hf, by simp [hvalue], rfl⟩

variable {fields : List Field} (happart : (fields.map Field.name).Pairwise FieldName.Apart)
include happart

/-- Two fields of the list have names apart. -/
theorem apart_of_mem {f g : Field} (hf : f ∈ fields) (hg : g ∈ fields) (hne : f ≠ g) :
    f.name.Apart g.name := by
  have hsymm : Std.Symm fun f g : Field => f.name.Apart g.name := ⟨fun _ _ h => symm h⟩
  exact (List.pairwise_map.mp happart).forall hf hg hne

/-- So the payload has no key twice. -/
theorem nodup_keys_ofFields : (keys (ofFields fields)).Nodup := by
  induction fields with
  | nil => exact List.nodup_nil
  | cons f fields ih =>
    obtain ⟨name, value⟩ := f
    rw [List.map_cons, List.pairwise_cons] at happart
    cases value with
    | none => exact ih happart.2
    | some value =>
      -- A wire name that came again would belong to a field that is not apart.
      refine List.nodup_cons.mpr ⟨fun hmem => ?_, ih happart.2⟩
      obtain ⟨g, hg, -, hwire⟩ := exists_of_mem_keys_ofFields hmem
      exact (happart.1 g.name (List.mem_map_of_mem hg)).1 (Text.ofString_injective hwire)

/-- Neither name of an absent field is among the keys. -/
theorem notMem_keys_ofFields {f : Field} (hf : f ∈ fields) (hvalue : f.value = none)
    {key : String} (hkey : key = f.name.wire ∨ key = f.name.name) :
    Text.ofString key ∉ keys (ofFields fields) := by
  intro hmem
  obtain ⟨g, hg, hpresent, hwire⟩ := exists_of_mem_keys_ofFields hmem
  have hne : f ≠ g := by
    rintro rfl
    exact hpresent hvalue
  have hapart := apart_of_mem happart hf hg hne
  rcases hkey with rfl | rfl
  · exact hapart.1 (Text.ofString_injective hwire)
  · exact hapart.2.1 (Text.ofString_injective hwire)

/-- Nothing stands under either name of an absent field. -/
theorem get?_ofFields_eq_none {f : Field} (hf : f ∈ fields) (hvalue : f.value = none)
    {key : String} (hkey : key = f.name.wire ∨ key = f.name.name) :
    (ofFields fields).get? (Text.ofString key) = none :=
  get?_eq_none_of_notMem (notMem_keys_ofFields happart hf hvalue hkey)

/-- A field stands under its wire name if it is present. -/
theorem get?_ofFields {f : Field} (hf : f ∈ fields) :
    (ofFields fields).get? (Text.ofString f.name.wire) = f.value.map FieldValue.json := by
  cases hvalue : f.value with
  | none => exact get?_ofFields_eq_none happart hf hvalue (.inl rfl)
  | some value => exact get?_of_mem (nodup_keys_ofFields happart) (mem_ofFields hf hvalue)

/-- A field is read from its own member if it is present, and from none otherwise. -/
theorem member?_ofFields {f : Field} (hf : f ∈ fields) :
    Reading.member? (ofFields fields) f.name = f.value.map FieldValue.json := by
  rw [Reading.member?, get?_ofFields happart hf]
  cases hvalue : f.value with
  | none => exact get?_ofFields_eq_none happart hf hvalue (.inr rfl)
  | some value => rfl

end Members

/-! ## Names of fields -/

/-- The names of the fields of the envelope, in order. -/
def envelopeNames : List FieldName :=
  [.purpose, .issuer, .subject, .issuedAt, .notBefore, .expiresAt, .tokenId, .trustChainSignature]

namespace ClaimsType

/-- The names of the fields that a kind adds to the envelope, in order. -/
def ownNames : ClaimsType → List FieldName
  | .standard => []
  | .provisioning =>
    [.secure, .urls, .token, .srvDomain, .provisionByDefault, .registrationData, .factsData,
      .brokerUser, .brokerPassword, .organization, .protocolV2, .allowUpdate, .extensions]
  | .client =>
    [.publicKey, .callerId, .allowedAgents, .opaPolicy, .permissions, .userProperties,
      .additionalPublishSubjects, .organization]
  | .server =>
    [.publicKey, .identity, .collectives, .permissions, .additionalPublishSubjects, .organization]

/-- The names of the fields of a kind, in order. -/
def fieldNames (kind : ClaimsType) : List FieldName :=
  envelopeNames ++ kind.ownNames

/-- No two fields of a kind share a name of either sort. -/
theorem pairwise_fieldNames (kind : ClaimsType) :
    kind.fieldNames.Pairwise fun a b => a.Apart b ∧ a.name ≠ b.name := by
  cases kind <;> decide

end ClaimsType

/-- The fields of claims have the names of their kind. -/
theorem Claims.map_name_fields (c : Claims) : c.fields.map Field.name = c.type.fieldNames := by
  cases c <;> rfl

/-! ## Dates of claims -/

/-- The date under a time claim. -/
def StandardClaims.time? (c : StandardClaims) : TimeClaim → Option Timestamp
  | .issuedAt => c.issuedAt
  | .notBefore => c.notBefore
  | .expiresAt => c.expiresAt

/-- The field of a time claim. -/
def TimeClaim.fieldName : TimeClaim → FieldName
  | .issuedAt => .issuedAt
  | .notBefore => .notBefore
  | .expiresAt => .expiresAt

/-- The field of a time claim is written under the name of the claim. -/
theorem TimeClaim.wire_fieldName (claim : TimeClaim) : claim.fieldName.wire = claim.wire := by
  cases claim <;> rfl

/-- The envelope with other dates. -/
def StandardClaims.withDates (c : StandardClaims) (date? : TimeClaim → Option Timestamp) :
    StandardClaims :=
  { c with
    issuedAt := date? .issuedAt
    notBefore := date? .notBefore
    expiresAt := date? .expiresAt }

/-! ## Fields read back -/

namespace Reading

variable {α : Type} {fields : List Field} {name : FieldName}

/-- A value that is written is never null. -/
theorem optional_json (read : Json → Checked α) (value : FieldValue) :
    optional read value.json = some <$> read value.json := by
  cases value <;> rfl

theorem texts_map_string (ts : List Text) : texts (.array (ts.map .string)) = .ok ts := by
  have htexts (items : List Json) : texts (.array items)
      = Checked.all (items.zipIdx.map fun item => (text item.1).under (.index item.2)) := rfl
  -- The positions matter for issues only, and there are none.
  have hitems : (ts.map Json.string).zipIdx.map (fun item => (text item.1).under (.index item.2))
      = ts.map .ok := by
    refine List.ext_getElem? fun i => ?_
    simp only [List.getElem?_map, List.getElem?_zipIdx]
    cases ts[i]? <;> rfl
  rw [htexts, hitems, Checked.all_ok]

theorem properties_map_string (entries : List (Text × Text)) :
    properties (.object (entries.map fun entry => (entry.1, .string entry.2))) = .ok entries := by
  have hproperties (members : Members) : properties (.object members)
      = Checked.all (members.map fun member => (fun t => (member.1, t)) <$>
        (text member.2).under (.key member.1.replaceSurrogates)) := rfl
  rw [hproperties, List.map_map]
  exact Checked.all_ok entries

/-- The permissions of a client are read back from their flags. -/
theorem clientPermissions_flags (p : ClientPermissions) :
    clientPermissions (FieldValue.flags p.flags).json = .ok p := by
  rw [FieldValue.json, clientPermissions_eq_ok_iff]
  simp only [ClientPermissions.flags, List.map_cons, List.map_nil]
  exact ⟨rfl, rfl, rfl, rfl, rfl, rfl, rfl, rfl, rfl, rfl⟩

/-- The permissions of a server are read back from their flags. -/
theorem serverPermissions_flags (p : ServerPermissions) :
    serverPermissions (FieldValue.flags p.flags).json = .ok p := by
  rw [FieldValue.json, serverPermissions_eq_ok_iff]
  simp only [ServerPermissions.flags, List.map_cons, List.map_nil]
  exact ⟨rfl, rfl, rfl⟩

variable (happart : (fields.map Field.name).Pairwise FieldName.Apart)
include happart

/-- A field that is always present is read back if its value is. -/
theorem field_ofFields {value : FieldValue} {default a : α} {read : Json → Checked α}
    (hmem : ⟨name, some value⟩ ∈ fields) (hread : read value.json = .ok a) :
    field (Members.ofFields fields) name default read = .ok a :=
  field_of_some (Members.member?_ofFields happart hmem) hread

/-- A field that may be absent is read back if its value is when it is present. -/
theorem field_optional_ofFields {value : Option α} {mk : α → FieldValue} {read : Json → Checked α}
    (hmem : ⟨name, value.map mk⟩ ∈ fields)
    (hread : ∀ a, value = some a → read (mk a).json = .ok a) :
    field (Members.ofFields fields) name none (optional read) = .ok value := by
  have hentry := Members.member?_ofFields happart hmem
  cases value with
  | none => exact field_of_none hentry
  | some a =>
    refine field_of_some hentry ?_
    rw [optional_json, hread a rfl, Checked.map_ok]

theorem field_text_ofFields {t : Option Text} (hmem : ⟨name, t.map .text⟩ ∈ fields) :
    field (Members.ofFields fields) name none (optional text) = .ok t :=
  field_optional_ofFields happart hmem fun _ _ => rfl

theorem field_texts_ofFields {ts : Option (List Text)} (hmem : ⟨name, ts.map .texts⟩ ∈ fields) :
    field (Members.ofFields fields) name none (optional texts) = .ok ts :=
  field_optional_ofFields happart hmem fun ts _ => texts_map_string ts

theorem field_flag_ofFields {b : Option Bool} (hmem : ⟨name, b.map .flag⟩ ∈ fields) :
    field (Members.ofFields fields) name none (optional flag) = .ok b :=
  field_optional_ofFields happart hmem fun _ _ => rfl

/-- A date comes back as it is a number of whole seconds. -/
theorem field_date_ofFields {t : Option Timestamp} (hmem : ⟨name, t.map .date⟩ ∈ fields)
    (hcanonical : ∀ f ∈ fields, ∀ value, f.value = some value → value.Canonical) :
    field (Members.ofFields fields) name none (optional Timestamp.ofJson) = .ok t := by
  refine field_optional_ofFields happart hmem ?_
  rintro date rfl
  -- Only a date of whole seconds is canonical.
  cases hcanonical _ hmem _ rfl with
  | date hn =>
    rw [FieldValue.json, Timestamp.wireSeconds?_ofSeconds hn]
    exact Timestamp.ofJson_int hn

/-- The envelope is read back from the members of any fields that include its own, with the dates
that are read. -/
theorem envelope_ofFields_of_dates {c : StandardClaims} {date? : TimeClaim → Option Timestamp}
    (hown : ∀ f ∈ c.fields, f ∈ fields)
    (hdates : ∀ claim : TimeClaim, field (Members.ofFields fields) claim.fieldName none
      (optional Timestamp.ofJson) = .ok (date? claim))
    (kind : ClaimsType) : envelope kind (Members.ofFields fields) = .ok (c.withDates date?) := by
  simp only [StandardClaims.fields, List.forall_mem_cons] at hown
  obtain ⟨hpurpose, hissuer, hsubject, -, -, -, htokenId, htrust, -⟩ := hown
  rw [envelope_eq_ok_iff]
  -- A stated purpose is always read, so the kind's own one is never taken.
  exact ⟨field_ofFields happart hpurpose (congrArg Checked.ok (Purpose.ofText_text c.purpose)),
    field_ofFields happart hissuer rfl, field_text_ofFields happart hsubject, hdates .issuedAt,
    hdates .notBefore, hdates .expiresAt, field_text_ofFields happart htokenId,
    field_text_ofFields happart htrust⟩

/-- The envelope is read back as it is if its dates are whole seconds. -/
theorem envelope_ofFields {c : StandardClaims} (hown : ∀ f ∈ c.fields, f ∈ fields)
    (hcanonical : ∀ f ∈ fields, ∀ value, f.value = some value → value.Canonical)
    (kind : ClaimsType) : envelope kind (Members.ofFields fields) = .ok c := by
  have hdates (claim : TimeClaim) : field (Members.ofFields fields) claim.fieldName none
      (optional Timestamp.ofJson) = .ok (c.time? claim) := by
    refine field_date_ofFields happart (hown _ ?_) hcanonical
    cases claim <;> simp [StandardClaims.fields, TimeClaim.fieldName, StandardClaims.time?]
  exact envelope_ofFields_of_dates happart hown hdates kind

end Reading

/-! ## Claims read back -/

namespace Claims

/-- No field of any claims goes by a wire name of another one. -/
theorem apart_fields (c : Claims) : (c.fields.map Field.name).Pairwise FieldName.Apart := by
  rw [map_name_fields]
  exact c.type.pairwise_fieldNames.imp And.left

/-- Claims that are decoded from what is written for them: they have the purpose of their kind, and
their values are written as they stand. -/
structure Canonical (c : Claims) : Prop where
  /-- Claims of a kind with a purpose have that purpose. -/
  purpose_eq : c.type ≠ .standard → c.envelope.purpose = c.type.purpose
  /-- The values of all fields are written as they stand. -/
  values : ∀ f ∈ c.fields, ∀ value, f.value = some value → value.Canonical

/-- Claims that come back from a token: they have the purpose of their kind, their values are
carried unchanged, and they expire after they are issued. -/
structure Portable (c : Claims) : Prop where
  /-- Claims of a kind with a purpose have that purpose. -/
  purpose_eq : c.type ≠ .standard → c.envelope.purpose = c.type.purpose
  /-- Claims with both times expire after they are issued. -/
  lifetime : ∀ issued expiry, c.envelope.issuedAt = some issued →
    c.envelope.expiresAt = some expiry → issued.wall < expiry.wall
  /-- The values of all fields are carried unchanged. -/
  values : ∀ f ∈ c.fields, ∀ value, f.value = some value → value.Portable

/-- Portable claims are canonical. -/
theorem Portable.canonical {c : Claims} (h : c.Portable) : c.Canonical where
  purpose_eq := h.purpose_eq
  values f hf value hvalue := (h.values f hf value hvalue).canonical

/-- The fields of the envelope are fields of the claims. -/
theorem mem_fields_of_mem_envelope {c : Claims} {f : Field} (hf : f ∈ c.envelope.fields) :
    f ∈ c.fields := by
  cases c with
  | standard c => exact hf
  | provisioning c => exact List.mem_append_left _ hf
  | client c => exact List.mem_append_left _ hf
  | server c => exact List.mem_append_left _ hf

/-- The dates of claims are fields of theirs. -/
theorem mem_fields_time (c : Claims) (claim : TimeClaim) :
    ⟨claim.fieldName, (c.envelope.time? claim).map .date⟩ ∈ c.fields := by
  refine mem_fields_of_mem_envelope ?_
  cases claim <;> simp [StandardClaims.fields, TimeClaim.fieldName, StandardClaims.time?]

/-- The claims under another envelope. -/
def withEnvelope (envelope : StandardClaims) : Claims → Claims
  | .standard _ => .standard envelope
  | .provisioning c => .provisioning { c with toStandardClaims := envelope }
  | .client c => .client { c with toStandardClaims := envelope }
  | .server c => .server { c with toStandardClaims := envelope }

theorem withEnvelope_envelope (c : Claims) : c.withEnvelope c.envelope = c := by
  cases c <;> rfl

/-- What claims add to an envelope is read back as it is. -/
theorem ofMembers_ofFields {c : Claims} {envelope : StandardClaims}
    (henvelope : Reading.envelope c.type (Members.ofFields c.fields) = .ok envelope) :
    ofMembers c.type (Members.ofFields c.fields) = .ok (c.withEnvelope envelope) := by
  have happart := c.apart_fields
  -- Each kind reads its own fields in the order in which they are listed.
  cases c with
  | standard c => exact Checked.map_eq_ok_iff.mpr ⟨envelope, henvelope, rfl⟩
  | provisioning c =>
    refine Checked.map_eq_ok_iff.mpr
      ⟨{ c with toStandardClaims := envelope }, Reading.provisioning_eq_ok_iff.mpr ?_, rfl⟩
    have hown : ∀ f ∈ c.ownFields, f ∈ (provisioning c).fields :=
      fun f hf => List.mem_append_right _ hf
    simp only [ProvisioningClaims.ownFields, List.forall_mem_cons] at hown
    obtain ⟨hsecure, hurls, htoken, hsrvDomain, hbyDefault, hregistration, hfacts, huser, hpassword,
      horganization, hprotocol, hupdate, hextensions, -⟩ := hown
    exact ⟨henvelope, Reading.field_ofFields happart hsecure rfl,
      Reading.field_text_ofFields happart hurls, Reading.field_ofFields happart htoken rfl,
      Reading.field_text_ofFields happart hsrvDomain,
      Reading.field_ofFields happart hbyDefault rfl,
      Reading.field_text_ofFields happart hregistration,
      Reading.field_text_ofFields happart hfacts, Reading.field_text_ofFields happart huser,
      Reading.field_text_ofFields happart hpassword,
      Reading.field_text_ofFields happart horganization,
      Reading.field_flag_ofFields happart hprotocol, Reading.field_flag_ofFields happart hupdate,
      Reading.field_optional_ofFields happart hextensions fun _ _ => rfl⟩
  | client c =>
    refine Checked.map_eq_ok_iff.mpr
      ⟨{ c with toStandardClaims := envelope }, Reading.client_eq_ok_iff.mpr ?_, rfl⟩
    have hown : ∀ f ∈ c.ownFields, f ∈ (client c).fields :=
      fun f hf => List.mem_append_right _ hf
    simp only [ClientClaims.ownFields, List.forall_mem_cons] at hown
    obtain ⟨hkey, hcaller, hagents, hpolicy, hpermissions, hproperties, hsubjects, horganization,
      -⟩ := hown
    exact ⟨henvelope, Reading.field_ofFields happart hkey rfl,
      Reading.field_ofFields happart hcaller rfl, Reading.field_texts_ofFields happart hagents,
      Reading.field_text_ofFields happart hpolicy,
      Reading.field_optional_ofFields happart hpermissions
        fun p _ => Reading.clientPermissions_flags p,
      Reading.field_optional_ofFields happart hproperties
        fun entries _ => Reading.properties_map_string entries,
      Reading.field_texts_ofFields happart hsubjects,
      Reading.field_text_ofFields happart horganization⟩
  | server c =>
    refine Checked.map_eq_ok_iff.mpr
      ⟨{ c with toStandardClaims := envelope }, Reading.server_eq_ok_iff.mpr ?_, rfl⟩
    have hown : ∀ f ∈ c.ownFields, f ∈ (server c).fields :=
      fun f hf => List.mem_append_right _ hf
    simp only [ServerClaims.ownFields, List.forall_mem_cons] at hown
    obtain ⟨hkey, hidentity, hcollectives, hpermissions, hsubjects, horganization, -⟩ := hown
    exact ⟨henvelope, Reading.field_ofFields happart hkey rfl,
      Reading.field_ofFields happart hidentity rfl,
      Reading.field_ofFields happart hcollectives (Reading.texts_map_string c.collectives),
      Reading.field_optional_ofFields happart hpermissions
        fun p _ => Reading.serverPermissions_flags p,
      Reading.field_texts_ofFields happart hsubjects,
      Reading.field_text_ofFields happart horganization⟩

/-- Canonical claims are read back from their fields. -/
theorem Canonical.ofMembers_ofFields {c : Claims} (h : c.Canonical) :
    ofMembers c.type (Members.ofFields c.fields) = .ok c := by
  have henvelope : Reading.envelope c.type (Members.ofFields c.fields) = .ok c.envelope :=
    Reading.envelope_ofFields c.apart_fields (fun f hf => mem_fields_of_mem_envelope hf) h.values
      c.type
  rw [Claims.ofMembers_ofFields henvelope, withEnvelope_envelope]

/-- Claims are decoded from what is written for them. -/
theorem Canonical.decodeAs_ofFields {c : Claims} (h : c.Canonical) :
    decodeAs c.type (.object (Members.ofFields c.fields)) = .ok c := by
  rw [decodeAs_eq, validate, h.ofMembers_ofFields]
  -- The purpose is that of the kind, so it is not refused.
  refine if_neg fun hwrong => ?_
  have hkind : c.type ≠ .standard := by
    intro hstandard
    rw [hstandard] at hwrong
    exact hwrong.1 rfl
  exact hwrong.2 (h.purpose_eq hkind)

/-- Claims of a kind with a purpose are decoded as this kind when the payload decides. -/
theorem Canonical.decode_ofFields {c : Claims} (h : c.Canonical) (hkind : c.type ≠ .standard) :
    decode (.object (Members.ofFields c.fields)) = .ok c := by
  have henvelope : Reading.envelope .standard (Members.ofFields c.fields) = .ok c.envelope :=
    Reading.envelope_ofFields c.apart_fields (fun f hf => mem_fields_of_mem_envelope hf) h.values
      .standard
  -- The payload is first read as standard claims, and their purpose names the kind.
  have hstandard : decodeAs .standard (.object (Members.ofFields c.fields))
      = .ok (standard c.envelope) := by
    rw [decodeAs_eq, validate, ofMembers, henvelope]
    rfl
  have hclaimsType : c.envelope.purpose.claimsType? = some c.type := by
    rw [h.purpose_eq hkind]
    cases c with
    | standard c => exact absurd rfl hkind
    | provisioning c => rfl
    | client c => rfl
    | server c => rfl
  rw [decode, hstandard, ok_bind]
  have henvelopeType : (standard c.envelope).envelope.purpose.claimsType? = some c.type :=
    hclaimsType
  simp only [henvelopeType]
  exact h.decodeAs_ofFields

/-! ## What tokens carry -/

/-- Fields with canonical values are written as they stand in the payload. -/
theorem render_eq_ok {fields : List Field} {zone : LocalZone}
    (h : ∀ f ∈ fields, ∀ value, f.value = some value → value.Canonical) :
    ((fields.filter fun f => f.value.isSome).mapM fun f =>
      (f.wire zone).map fun value => (Text.ofString f.name.wire, value))
        = .ok (Members.ofFields fields) := by
  induction fields with
  | nil => rfl
  | cons f fields ih =>
    obtain ⟨name, value⟩ := f
    have hrest := ih fun f hf => h f (List.mem_cons_of_mem _ hf)
    -- An absent field is left out on both sides.
    cases value with
    | none => exact hrest
    | some value =>
      have hwire : Field.wire ⟨name, some value⟩ zone = .ok value.json :=
        (h ⟨name, some value⟩ List.mem_cons_self value rfl).wire_eq
      rw [List.filter_cons_of_pos rfl, List.mapM_cons, hwire, hrest]
      rfl

/-- A token with canonical claims carries one member for each field that is present, whatever the
local clock. -/
theorem Canonical.payload_eq {c : Claims} (h : c.Canonical) {zone : LocalZone} :
    c.payload zone = .ok (Members.ofFields c.fields) := by
  rw [payload, render]
  exact render_eq_ok h.values

theorem nodup_client_flags (p : ClientPermissions) : (p.flags.map Prod.fst).Nodup := by
  have hnames : p.flags.map Prod.fst = (ClientPermissions.flags {}).map Prod.fst := rfl
  rw [hnames]
  decide

theorem nodup_server_flags (p : ServerPermissions) : (p.flags.map Prod.fst).Nodup := by
  have hnames : p.flags.map Prod.fst = (ServerPermissions.flags {}).map Prod.fst := rfl
  rw [hnames]
  decide

/-- The flags in claims are those of some permissions, whose names are all different. -/
theorem nodup_flags {c : Claims} {f : Field} (hf : f ∈ c.fields) {named : List (String × Bool)}
    (hvalue : f.value = some (.flags named)) : (named.map Prod.fst).Nodup := by
  revert f named
  cases c with
  | standard c => simp [fields, StandardClaims.fields]
  | provisioning c => simp [fields, StandardClaims.fields, ProvisioningClaims.ownFields]
  | client c =>
    simp [fields, StandardClaims.fields, ClientClaims.ownFields, nodup_client_flags]
  | server c =>
    simp [fields, StandardClaims.fields, ServerClaims.ownFields, nodup_server_flags]

/-- The payload of portable claims is read back as it was written. -/
theorem Portable.lossless {c : Claims} (h : c.Portable) :
    (Json.object (Members.ofFields c.fields)).Lossless := by
  refine .object (Members.nodup_keys_ofFields c.apart_fields) (fun member hmember => ?_)
    fun member hmember => ?_
  · obtain ⟨f, -, value, -, rfl⟩ := Members.exists_of_mem_ofFields hmember
    exact Text.unpaired_ofString f.name.wire
  · obtain ⟨f, hf, value, hvalue, rfl⟩ := Members.exists_of_mem_ofFields hmember
    refine (h.values f hf value hvalue).lossless_json ?_
    rintro named rfl
    exact nodup_flags hf hvalue

end Claims

end FleetToken
