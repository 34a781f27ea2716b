import FleetToken.Proofs.Claims.Payload

/-!
# The payload of claims is a fixed point

Claims without floating-point numbers are decoded from their payload, and what is decoded has the
same payload again. It differs from the claims in two ways. Dates have become the whole seconds on
the wire. And in the keys of user properties and at the top of extensions surrogates have been
replaced, so that entries whose keys became equal are joined.

## Main definitions

* `Json.FloatFree`, `Claims.FloatFree`: values and claims without floating-point numbers.
* `Claims.replaceKeys`: claims with their keys as on the wire.
* `Claims.withDates`, `Members.date?`: claims with other dates, and the dates of a payload.

## Main results

* `Claims.eq_ofFields_of_payload`: what a payload holds.
* `Claims.replaceKeys_eq_self_iff`: when keys stay as they are.
* `Claims.decodeAs_payload`: what a payload is decoded into.
-/

namespace FleetToken

/-! ## Values without floating-point numbers -/

/-- A value without floating-point numbers. The keys of an object are all different, as in every
dictionary. -/
inductive Json.FloatFree : Json → Prop where
  | null : FloatFree .null
  | bool (b : Bool) : FloatFree (.bool b)
  | int (n : Int) : FloatFree (.int n)
  | string (t : Text) : FloatFree (.string t)
  | array {items : List Json} (hitems : ∀ item ∈ items, FloatFree item) : FloatFree (.array items)
  | object {members : Members} (hkeys : members.keys.Nodup)
      (hvalues : ∀ member ∈ members, FloatFree member.2) : FloatFree (.object members)

/-- A value without floating-point numbers is written as it stands, if it is written. -/
theorem Json.FloatFree.eq_of_wire {levels : Nat} {value written : Json} (hvalue : FloatFree value)
    (h : value.wire levels = .ok written) : written = value := by
  induction hvalue generalizing levels written with
  | null | bool | int | string =>
    obtain ⟨below, rfl⟩ := exists_succ_of_wire h
    exact (Except.ok.inj h).symm
  | array _ ih =>
    obtain ⟨below, found, hfound, rfl⟩ := exists_of_wire_array h
    rw [eq_map_of_mapM hfound fun item hitem result hresult => ih item hitem hresult, List.map_id']
  | @object members _ _ ih =>
    obtain ⟨below, found, hfound, rfl⟩ := exists_of_wire_object h
    have hmember : ∀ member ∈ members, ∀ result, wireMember below member = .ok result →
        result = member := by
      intro member hmember result hresult
      obtain ⟨-, value, hvalue, rfl⟩ := wireMember_eq_ok_iff.mp hresult
      rw [ih member hmember hvalue]
    rw [eq_map_of_mapM hfound hmember, List.map_id']

/-! ## Keys on the wire -/

/-- No surrogate is left. -/
theorem Text.wellFormed_replaceSurrogates (t : Text) : t.replaceSurrogates.WellFormed := by
  intro c hc
  obtain ⟨d, -, hd⟩ := List.mem_flatMap.mp hc
  split at hd
  · rw [List.eq_of_mem_replicate hd]
    rfl
  · rename_i hsurrogate
    rw [List.mem_singleton.mp hd]
    exact Bool.not_eq_true _ ▸ hsurrogate

namespace Members

/-- Members under their keys on the wire: surrogates are replaced, and members whose keys have
become equal are joined. -/
def replaceKeys (members : Members) : Members :=
  ofList (members.map fun member => (member.1.replaceSurrogates, member.2))

/-- Each member that is written has the value of a member and its key as it is written. -/
theorem exists_of_mem_replaceKeys {members : Members} {member : Text × Json}
    (h : member ∈ members.replaceKeys) :
    ∃ key, (key, member.2) ∈ members ∧ member.1 = key.replaceSurrogates := by
  obtain ⟨old, hold, rfl⟩ := List.mem_map.mp (mem_of_mem_ofList h)
  exact ⟨old.1, hold, rfl⟩

/-- Members are written under keys that can be written. -/
theorem areKeys_replaceKeys (members : Members) : Text.AreKeys members.replaceKeys.keys where
  nodup := nodup_keys_ofList _
  wellFormed key hkey := by
    obtain ⟨member, hmember, rfl⟩ := List.mem_map.mp hkey
    obtain ⟨old, -, hold⟩ := exists_of_mem_replaceKeys hmember
    rw [hold]
    exact old.wellFormed_replaceSurrogates

/-- Members are written as they are if and only if their keys can be written. -/
theorem replaceKeys_eq_self_iff {members : Members} :
    members.replaceKeys = members ↔ Text.AreKeys members.keys := by
  constructor
  · intro h
    rw [← h]
    exact members.areKeys_replaceKeys
  · intro h
    have hsame : members.map (fun member => (member.1.replaceSurrogates, member.2)) = members := by
      refine (List.map_congr_left fun member hmember => ?_).trans (List.map_id' members)
      rw [Text.replaceSurrogates_eq_self (h.wellFormed member.1 (mem_keys_of_mem hmember))]
    rw [replaceKeys, hsame, ofList_of_nodup h.nodup]

end Members

/-- Properties under their keys on the wire. -/
def replacePropertyKeys (entries : List (Text × Text)) : List (Text × Text) :=
  (Members.replaceKeys (entries.map fun entry => (entry.1, .string entry.2))).map fun member =>
    (member.1, member.2.string?.getD [])

/-- Properties are texts, and they stay texts. -/
theorem map_string_replacePropertyKeys (entries : List (Text × Text)) :
    (replacePropertyKeys entries).map (fun entry => (entry.1, Json.string entry.2))
      = Members.replaceKeys (entries.map fun entry => (entry.1, .string entry.2)) := by
  rw [replacePropertyKeys, List.map_map]
  refine (List.map_congr_left fun member hmember => ?_).trans (List.map_id' _)
  obtain ⟨key, hkey, -⟩ := Members.exists_of_mem_replaceKeys hmember
  obtain ⟨entry, -, hentry⟩ := List.mem_map.mp hkey
  obtain ⟨-, hvalue⟩ := Prod.mk.inj hentry
  obtain ⟨name, value⟩ := member
  obtain rfl : Json.string entry.2 = value := hvalue
  rfl

/-- Properties are written under keys that can be written. -/
theorem areKeys_replacePropertyKeys (entries : List (Text × Text)) :
    Text.AreKeys ((replacePropertyKeys entries).map Prod.fst) := by
  rw [← keys_properties, map_string_replacePropertyKeys]
  exact Members.areKeys_replaceKeys _

/-- Properties are written as they are if and only if their keys can be written. -/
theorem replacePropertyKeys_eq_self_iff {entries : List (Text × Text)} :
    replacePropertyKeys entries = entries ↔ Text.AreKeys (entries.map Prod.fst) := by
  constructor
  · intro h
    rw [← h]
    exact areKeys_replacePropertyKeys entries
  · intro h
    rw [← keys_properties] at h
    rw [replacePropertyKeys, Members.replaceKeys_eq_self_iff.mpr h, List.map_map]
    exact List.map_id' entries

namespace FieldValue

/-- A value with its keys as on the wire. -/
def replaceKeys : FieldValue → FieldValue
  | .properties entries => .properties (replacePropertyKeys entries)
  | .members extensions => .members extensions.replaceKeys
  | value => value

/-- What is written for the values of extensions. -/
theorem eq_replaceKeys_of_wireExtensions {extensions written : Members}
    (hfloats : ∀ member ∈ extensions, member.2.FloatFree)
    (h : wireExtensions extensions = .ok written) : written = extensions.replaceKeys
      ∧ ∀ member ∈ extensions, member.2.wire maxLevels = .ok member.2 := by
  rw [wireExtensions] at h
  obtain ⟨found, hfound, hwritten⟩ := bind_eq_ok_iff.mp h
  obtain rfl := Except.ok.inj hwritten
  constructor
  · rw [Members.replaceKeys, eq_map_of_mapM hfound fun member hmember result hresult => ?_]
    obtain ⟨value, hvalue, hresult⟩ := bind_eq_ok_iff.mp hresult
    obtain rfl := Except.ok.inj hresult
    rw [(hfloats member hmember).eq_of_wire hvalue]
  · intro member hmember
    obtain ⟨result, -, hresult⟩ := exists_mem_of_mapM hfound hmember
    obtain ⟨value, hvalue, -⟩ := bind_eq_ok_iff.mp hresult
    rw [hvalue, (hfloats member hmember).eq_of_wire hvalue]

variable {zone : LocalZone} {value : FieldValue} {written : Json}
  (hfloats : ∀ extensions, value = .members extensions → ∀ member ∈ extensions, member.2.FloatFree)
include hfloats

/-- What is written for a value, if anything is: only its keys can change. -/
theorem eq_json_of_wire (h : value.wire zone = .ok written) :
    written = value.replaceKeys.json zone := by
  -- Dates, properties and extensions are the only values that writing does more to than copy.
  cases value with
  | purpose p => exact (Except.ok.inj h).symm
  | text t => exact (Except.ok.inj h).symm
  | flag b => exact (Except.ok.inj h).symm
  | date t =>
    have hjson : (FieldValue.date t).replaceKeys.json zone
        = .int ((t.wireSeconds? zone).getD 0) := rfl
    rw [wire] at h
    rw [hjson]
    split at h
    · rename_i seconds hseconds
      rw [hseconds]
      exact (Except.ok.inj h).symm
    · contradiction
  | texts ts => exact (Except.ok.inj h).symm
  | properties entries =>
    rw [replaceKeys, json, map_string_replacePropertyKeys, Members.replaceKeys, List.map_map]
    exact (Except.ok.inj h).symm
  | flags named => exact (Except.ok.inj h).symm
  | members extensions =>
    obtain ⟨found, hfound, rfl⟩ := map_eq_ok_iff.mp h
    rw [(eq_replaceKeys_of_wireExtensions (hfloats extensions rfl) hfound).1]
    rfl

/-- A value that is written is canonical with its keys on the wire, unless it is a date. -/
theorem canonical_replaceKeys (h : value.wire zone = .ok written) (hdate : ∀ t, value ≠ .date t) :
    value.replaceKeys.Canonical := by
  cases value with
  | purpose p => exact .purpose p
  | text t => exact .text t
  | flag b => exact .flag b
  | date t => exact absurd rfl (hdate t)
  | texts ts => exact .texts ts
  | properties entries => exact .properties (areKeys_replacePropertyKeys entries)
  | flags named => exact .flags named
  | members extensions =>
    obtain ⟨found, hfound, -⟩ := map_eq_ok_iff.mp h
    refine .members extensions.areKeys_replaceKeys fun member hmember => ?_
    obtain ⟨key, hkey, -⟩ := Members.exists_of_mem_replaceKeys hmember
    exact (eq_replaceKeys_of_wireExtensions (hfloats extensions rfl) hfound).2 (key, member.2) hkey

end FieldValue

/-- A field with its keys as on the wire. -/
def Field.replaceKeys (f : Field) : Field :=
  { f with value := f.value.map FieldValue.replaceKeys }

/-! ## Dates on the wire -/

/-- The date of the integer under a time claim, in seconds. -/
def Members.date? (payload : Members) (claim : TimeClaim) : Option Timestamp :=
  match payload.get? (Text.ofString claim.wire) with
  | some (.int n) => WallReading.timestamp? ⟨n * microsPerSecond, .fixed 0⟩
  | _ => none

/-- A payload states a date by an integer number of seconds. -/
theorem Members.date?_eq_some_iff {payload : Members} {claim : TimeClaim} {t : Timestamp} :
    payload.date? claim = some t
      ↔ ∃ n h, payload.get? (Text.ofString claim.wire) = some (.int n) ∧ t = .ofSeconds n h := by
  rw [date?]
  split
  · rename_i n hn
    rw [WallReading.timestamp?_eq_some_iff, hn]
    constructor
    · intro h
      obtain ⟨hwall, hclock⟩ := WallReading.mk.inj h
      exact ⟨n, hwall ▸ t.wall_inRange, rfl, Timestamp.ext hwall.symm hclock.symm⟩
    · rintro ⟨m, h, hm, rfl⟩
      obtain rfl := Json.int.inj (Option.some.inj hm)
      rfl
  · rename_i hother
    simp only [reduceCtorEq, false_iff]
    rintro ⟨n, -, hn, -⟩
    exact hother n hn

namespace Claims

/-- The claims with other dates. -/
def withDates (date? : TimeClaim → Option Timestamp) : Claims → Claims
  | .standard c => .standard (c.withDates date?)
  | .provisioning c =>
    .provisioning { c with toStandardClaims := c.toStandardClaims.withDates date? }
  | .client c => .client { c with toStandardClaims := c.toStandardClaims.withDates date? }
  | .server c => .server { c with toStandardClaims := c.toStandardClaims.withDates date? }

/-- The extensions of claims of any kind. -/
def extensions? : Claims → Option Members
  | .provisioning c => c.extensions
  | _ => none

/-- The user properties of claims of any kind. -/
def userProperties? : Claims → Option (List (Text × Text))
  | .client c => c.userProperties
  | _ => none

/-- No extension holds a floating-point number. -/
def FloatFree (c : Claims) : Prop :=
  ∀ extensions, c.extensions? = some extensions → ∀ member ∈ extensions, member.2.FloatFree

/-- The claims with their keys as on the wire. -/
def replaceKeys : Claims → Claims
  | .provisioning c => .provisioning { c with extensions := c.extensions.map Members.replaceKeys }
  | .client c => .client { c with userProperties := c.userProperties.map replacePropertyKeys }
  | c => c

/-- The keys of user properties and extensions are different and hold no surrogates. -/
structure HasPlainKeys (c : Claims) : Prop where
  extensions : ∀ extensions, c.extensions? = some extensions → Text.AreKeys extensions.keys
  userProperties : ∀ entries, c.userProperties? = some entries →
    Text.AreKeys (entries.map Prod.fst)

theorem extensions?_replaceKeys (c : Claims) :
    c.replaceKeys.extensions? = c.extensions?.map Members.replaceKeys := by
  cases c <;> rfl

theorem userProperties?_replaceKeys (c : Claims) :
    c.replaceKeys.userProperties? = c.userProperties?.map replacePropertyKeys := by
  cases c <;> rfl

/-- Claims whose extensions and properties are written as they are, are written as they are. -/
theorem replaceKeys_eq_self {c : Claims}
    (hextensions : c.extensions?.map Members.replaceKeys = c.extensions?)
    (hproperties : c.userProperties?.map replacePropertyKeys = c.userProperties?) :
    c.replaceKeys = c := by
  cases c with
  | standard c => rfl
  | provisioning c =>
    replace hextensions : c.extensions.map Members.replaceKeys = c.extensions := hextensions
    rw [replaceKeys, hextensions]
  | client c =>
    replace hproperties : c.userProperties.map replacePropertyKeys = c.userProperties := hproperties
    rw [replaceKeys, hproperties]
  | server c => rfl

/-- Plain keys are those that stay as they are. -/
theorem replaceKeys_eq_self_iff {c : Claims} : c.replaceKeys = c ↔ c.HasPlainKeys := by
  have hsame {α : Type} {f : α → α} {value : Option α} :
      value.map f = value ↔ ∀ a, value = some a → f a = a := by
    cases value <;> simp
  constructor
  · intro h
    have hextensions := c.extensions?_replaceKeys
    have hproperties := c.userProperties?_replaceKeys
    rw [h, eq_comm, hsame] at hextensions hproperties
    exact ⟨fun extensions he => Members.replaceKeys_eq_self_iff.mp (hextensions extensions he),
      fun entries he => replacePropertyKeys_eq_self_iff.mp (hproperties entries he)⟩
  · intro h
    exact replaceKeys_eq_self
      (hsame.mpr fun extensions he => Members.replaceKeys_eq_self_iff.mpr (h.extensions _ he))
      (hsame.mpr fun entries he => replacePropertyKeys_eq_self_iff.mpr (h.userProperties _ he))

/-! ## Fields of the claims that are decoded -/

/-- The fields of claims are written one by one. -/
theorem fields_replaceKeys (c : Claims) :
    c.replaceKeys.fields = c.fields.map Field.replaceKeys := by
  -- Of all values only those under two names can change.
  cases c with
  | standard c =>
    simp only [replaceKeys, fields, StandardClaims.fields, List.map_cons, List.map_nil,
      Field.replaceKeys, Option.map_some, Option.map_map]
    rfl
  | provisioning c =>
    simp only [replaceKeys, fields, StandardClaims.fields, ProvisioningClaims.ownFields,
      List.map_append, List.map_cons, List.map_nil, Field.replaceKeys, Option.map_some,
      Option.map_map]
    rfl
  | client c =>
    simp only [replaceKeys, fields, StandardClaims.fields, ClientClaims.ownFields,
      List.map_append, List.map_cons, List.map_nil, Field.replaceKeys, Option.map_some,
      Option.map_map]
    rfl
  | server c =>
    simp only [replaceKeys, fields, StandardClaims.fields, ServerClaims.ownFields,
      List.map_append, List.map_cons, List.map_nil, Field.replaceKeys, Option.map_some,
      Option.map_map]
    rfl

theorem envelope_replaceKeys (c : Claims) : c.replaceKeys.envelope = c.envelope := by
  cases c <;> rfl

theorem type_replaceKeys (c : Claims) : c.replaceKeys.type = c.type := by
  cases c <;> rfl

theorem envelope_withDates (c : Claims) (date? : TimeClaim → Option Timestamp) :
    (c.withDates date?).envelope = c.envelope.withDates date? := by
  cases c <;> rfl

theorem type_withDates (c : Claims) (date? : TimeClaim → Option Timestamp) :
    (c.withDates date?).type = c.type := by
  cases c <;> rfl

theorem userProperties?_withDates (c : Claims) (date? : TimeClaim → Option Timestamp) :
    (c.withDates date?).userProperties? = c.userProperties? := by
  cases c <;> rfl

/-- Extensions are the only members among the values of fields. -/
theorem extensions?_of_mem_fields {c : Claims} {f : Field} (hf : f ∈ c.fields)
    {extensions : Members} (hvalue : f.value = some (.members extensions)) :
    c.extensions? = some extensions := by
  revert f extensions
  cases c with
  | standard c => simp [fields, StandardClaims.fields]
  | provisioning c =>
    simp [fields, StandardClaims.fields, ProvisioningClaims.ownFields, extensions?]
  | client c => simp [fields, StandardClaims.fields, ClientClaims.ownFields]
  | server c => simp [fields, StandardClaims.fields, ServerClaims.ownFields]

/-- With other dates, only the fields with dates change. -/
theorem mem_fields_of_withDates {c : Claims} {date? : TimeClaim → Option Timestamp} {f : Field}
    (hf : f ∈ (c.withDates date?).fields) :
    (∃ claim, f.value = (date? claim).map .date)
      ∨ (f ∈ c.fields ∧ ∀ t, f.value ≠ some (.date t)) := by
  have henvelope : f ∈ (c.withDates date?).envelope.fields →
      (∃ claim, f.value = (date? claim).map .date)
        ∨ (f ∈ c.envelope.fields ∧ ∀ t, f.value ≠ some (.date t)) := by
    rw [envelope_withDates]
    simp only [StandardClaims.fields, StandardClaims.withDates, List.mem_cons, List.not_mem_nil,
      or_false]
    rintro (rfl | rfl | rfl | rfl | rfl | rfl | rfl | rfl)
    · exact .inr (by simp)
    · exact .inr (by simp)
    · exact .inr (by simp)
    · exact .inl ⟨.issuedAt, rfl⟩
    · exact .inl ⟨.notBefore, rfl⟩
    · exact .inl ⟨.expiresAt, rfl⟩
    · exact .inr (by simp)
    · exact .inr (by simp)
  -- The fields that a kind adds are the same, and no dates are among them.
  have hown (own : List Field) (hc : c.fields = c.envelope.fields ++ own)
      (hdates : (c.withDates date?).fields = (c.withDates date?).envelope.fields ++ own)
      (hnone : ∀ g ∈ own, ∀ t, g.value ≠ some (.date t)) :
      (∃ claim, f.value = (date? claim).map .date)
        ∨ (f ∈ c.fields ∧ ∀ t, f.value ≠ some (.date t)) := by
    rw [hdates, List.mem_append] at hf
    rcases hf with hf | hf
    · exact (henvelope hf).imp_right fun h => ⟨mem_fields_of_mem_envelope h.1, h.2⟩
    · exact .inr ⟨hc ▸ List.mem_append_right _ hf, hnone f hf⟩
  cases c with
  | standard c => exact henvelope hf
  | provisioning c => exact hown c.ownFields rfl rfl (by simp [ProvisioningClaims.ownFields])
  | client c => exact hown c.ownFields rfl rfl (by simp [ClientClaims.ownFields])
  | server c => exact hown c.ownFields rfl rfl (by simp [ServerClaims.ownFields])

/-- Dates that are written alike leave the payload as it is. -/
theorem ofFields_withDates {c : Claims} {date? : TimeClaim → Option Timestamp}
    {zone : LocalZone} (h : ∀ claim, (date? claim).map (fun t => (FieldValue.date t).json zone)
      = (c.envelope.time? claim).map fun t => (FieldValue.date t).json zone) :
    Members.ofFields (c.withDates date?).fields zone = Members.ofFields c.fields zone := by
  -- Only the envelope has dates, and its fields agree one by one.
  have henvelope : (c.envelope.withDates date?).fields.map
        (fun f => (f.name, f.value.map (FieldValue.json zone)))
      = c.envelope.fields.map fun f => (f.name, f.value.map (FieldValue.json zone)) := by
    have hissued := h .issuedAt
    have hvalid := h .notBefore
    have hexpires := h .expiresAt
    simp only [StandardClaims.time?] at hissued hvalid hexpires
    simp only [StandardClaims.fields, StandardClaims.withDates, List.map_cons, Option.map_map,
      Function.comp_def, hissued, hvalid, hexpires]
  refine Members.ofFields_congr ?_
  cases c with
  | standard c => exact henvelope
  | provisioning c =>
    simp only [fields, withDates, List.map_append]
    exact congrArg (· ++ _) henvelope
  | client c =>
    simp only [fields, withDates, List.map_append]
    exact congrArg (· ++ _) henvelope
  | server c =>
    simp only [fields, withDates, List.map_append]
    exact congrArg (· ++ _) henvelope

/-! ## What a payload holds -/

variable {zone : LocalZone}

/-- Where every value is written as it stands in the payload, so are all the fields. -/
theorem eq_ofFields_of_render {fields : List Field} {written : Members}
    (hvalues : ∀ f ∈ fields, ∀ value, f.value = some value → ∀ json, value.wire zone = .ok json →
      json = value.replaceKeys.json zone)
    (h : ((fields.filter fun f => f.value.isSome).mapM fun f =>
      (f.wire zone).map fun value => (Text.ofString f.name.wire, value)) = .ok written) :
    written = Members.ofFields (fields.map Field.replaceKeys) zone := by
  induction fields generalizing written with
  | nil => exact (Except.ok.inj h).symm
  | cons f fields ih =>
    obtain ⟨name, value⟩ := f
    have hvaluesRest := fun g hg => hvalues g (List.mem_cons_of_mem _ hg)
    -- An absent field is left out on both sides.
    cases value with
    | none => exact ih hvaluesRest h
    | some value =>
      rw [List.filter_cons_of_pos rfl, List.mapM_cons] at h
      obtain ⟨first, hfirst, h⟩ := bind_eq_ok_iff.mp h
      obtain ⟨rest, hmembers, h⟩ := bind_eq_ok_iff.mp h
      obtain ⟨json, hjson, rfl⟩ := map_eq_ok_iff.mp hfirst
      obtain rfl := Except.ok.inj h
      rw [ih hvaluesRest hmembers, hvalues _ List.mem_cons_self value rfl json hjson]
      rfl

variable {c : Claims} {payload : Members}

/-- The payload has one member for each field that is present, with its keys on the wire. -/
theorem eq_ofFields_of_payload (hfloats : c.FloatFree) (h : c.payload zone = .ok payload) :
    payload = Members.ofFields c.replaceKeys.fields zone := by
  rw [fields_replaceKeys]
  refine eq_ofFields_of_render (fun f hf value hvalue json hjson => ?_) h
  refine FieldValue.eq_json_of_wire (fun extensions hextensions => ?_) hjson
  exact hfloats extensions (extensions?_of_mem_fields hf (hvalue.trans (congrArg some hextensions)))

section Payload

variable (hfloats : c.FloatFree) (h : c.payload zone = .ok payload)
  (hdates : ∀ (claim : TimeClaim) (n : Int),
    payload.get? (Text.ofString claim.wire) = some (.int n) → n.natAbs ≤ 20000000000)
include hfloats h hdates

/-- The values of the claims that a payload is decoded into are canonical. -/
theorem canonical_of_mem_withDates {f : Field}
    (hf : f ∈ (c.replaceKeys.withDates payload.date?).fields) {value : FieldValue}
    (hvalue : f.value = some value) : value.Canonical := by
  rcases mem_fields_of_withDates hf with ⟨claim, hdate⟩ | ⟨hmem, hdate⟩
  · rw [hdate, Option.map_eq_some_iff] at hvalue
    obtain ⟨t, ht, rfl⟩ := hvalue
    obtain ⟨n, -, hn, rfl⟩ := Members.date?_eq_some_iff.mp ht
    exact .date (hdates claim n hn)
  · rw [fields_replaceKeys] at hmem
    obtain ⟨old, hold, rfl⟩ := List.mem_map.mp hmem
    obtain ⟨oldValue, holdValue, rfl⟩ := Option.map_eq_some_iff.mp hvalue
    obtain ⟨json, hjson, -⟩ := exists_wire_of_payload h hold holdValue
    refine FieldValue.canonical_replaceKeys (fun extensions hextensions => ?_) hjson ?_
    · exact hfloats extensions
        (extensions?_of_mem_fields hold (holdValue.trans (congrArg some hextensions)))
    · rintro t rfl
      exact hdate t hvalue

/-- The claims that a payload is decoded into are canonical. -/
theorem canonical_withDates
    (hpurpose : c.type ≠ .standard → c.envelope.purpose = c.type.purpose) :
    (c.replaceKeys.withDates payload.date?).Canonical where
  purpose_eq hkind := by
    rw [type_withDates, type_replaceKeys] at hkind ⊢
    rw [envelope_withDates, envelope_replaceKeys]
    exact hpurpose hkind
  values f hf value hvalue := canonical_of_mem_withDates hfloats h hdates hf hvalue

/-- They are written as the claims were. -/
theorem ofFields_withDates_date? :
    Members.ofFields (c.replaceKeys.withDates payload.date?).fields = payload := by
  have hpayload := eq_ofFields_of_payload hfloats h
  rw [← Members.ofFields_of_canonical
    (fun f hf value hvalue => canonical_of_mem_withDates hfloats h hdates hf hvalue) zone]
  refine (ofFields_withDates fun claim => ?_).trans hpayload.symm
  rw [envelope_replaceKeys]
  cases htime : c.envelope.time? claim with
  | none => rw [Members.date?, get?_time_eq_none h htime, Option.map_none]
  | some t =>
    obtain ⟨n, hn, hget⟩ := exists_seconds_of_payload h htime
    have hsmall : n.natAbs ≤ Timestamp.watershed.natAbs := hdates claim n hget
    have hdate := Members.date?_eq_some_iff.mpr
      ⟨n, Timestamp.inRange_of_natAbs_le hsmall, hget, rfl⟩
    simp only [hdate, Option.map_some, FieldValue.json, Timestamp.wireSeconds?_ofSeconds hsmall, hn]

/-- What is written is decoded to the claims as they are written, with the dates that the payload
states. -/
theorem decodeAs_of_payload
    (hpurpose : c.type ≠ .standard → c.envelope.purpose = c.type.purpose) :
    decodeAs c.type (.object payload) = .ok (c.replaceKeys.withDates payload.date?) := by
  have hdecoded := (canonical_withDates hfloats h hdates hpurpose).decodeAs_ofFields
  rwa [ofFields_withDates_date? hfloats h hdates, type_withDates, type_replaceKeys] at hdecoded

end Payload

/-- Claims of any kind with the purpose of their kind and without floating-point numbers are
decoded from their payload, if it has no dates beyond `20000000000` seconds from 1970, and the
decoded claims have the same payload. They are the same claims but for two things: the dates are the
instants of the integers in the payload, and keys are as on the wire. Keys without surrogates stay
as they are. -/
theorem decodeAs_payload (c : Claims)
    (hpurpose : c.type ≠ .standard → c.envelope.purpose = c.type.purpose) (hfloats : c.FloatFree)
    {zone : LocalZone} {payload : Members} (h : c.payload zone = .ok payload)
    (hdates : ∀ (claim : TimeClaim) (n : Int),
      payload.get? (Text.ofString claim.wire) = some (.int n) → n.natAbs ≤ 20000000000) :
    decodeAs c.type (.object payload) = .ok (c.replaceKeys.withDates payload.date?)
      ∧ (c.replaceKeys.withDates payload.date?).payload zone = .ok payload
      ∧ (c.replaceKeys = c ↔ c.HasPlainKeys) := by
  refine ⟨decodeAs_of_payload hfloats h hdates hpurpose, ?_, replaceKeys_eq_self_iff⟩
  rw [(canonical_withDates hfloats h hdates hpurpose).payload_eq,
    ofFields_withDates_date? hfloats h hdates]

/-- Claims of a client, issued at a quarter past ten seconds on a clock that is an hour ahead. The
key of a property is half of a surrogate pair. -/
def surrogateSample : Claims :=
  .client {
    purpose := .client
    issuedAt := some { wall := 3610250000, clock := .fixed ⟨3600000000, by decide⟩ }
    userProperties := some [([.ofNat 0xD800], [])] }

/-- What is written for these claims. -/
def surrogatePayload : Members :=
  [(Text.ofString "purpose", .string Purpose.client.text), (Text.ofString "iss", .string []),
    (Text.ofString "iat", .int 10), (Text.ofString "public_key", .string []),
    (Text.ofString "callerid", .string []),
    (Text.ofString "user_properties", .object [(List.replicate 3 .replacement, .string [])])]

theorem payload_surrogateSample : surrogateSample.payload = .ok surrogatePayload := rfl

/-- The sample states no float. -/
theorem floatFree_surrogateSample : surrogateSample.FloatFree := by
  simp [FloatFree, surrogateSample, extensions?]

/-- Its dates lie below the watershed. -/
theorem get?_surrogatePayload (claim : TimeClaim) (n : Int)
    (h : surrogatePayload.get? (Text.ofString claim.wire) = some (.int n)) :
    n.natAbs ≤ 20000000000 := by
  cases claim with
  | issuedAt =>
    have hissued : surrogatePayload.get? (Text.ofString TimeClaim.issuedAt.wire)
        = some (.int 10) := rfl
    rw [hissued, Option.some.injEq, Json.int.injEq] at h
    omega
  | notBefore => contradiction
  | expiresAt => contradiction

/-- These claims are decoded with a whole second and with another key. -/
theorem decodeAs_surrogatePayload : surrogateSample.payload = .ok surrogatePayload
    ∧ decodeAs .client (.object surrogatePayload)
      = .ok (surrogateSample.replaceKeys.withDates surrogatePayload.date?)
    ∧ surrogatePayload.date? .issuedAt = some (.ofSeconds 10)
    ∧ surrogateSample.replaceKeys.userProperties? = some [(List.replicate 3 .replacement, [])] :=
  ⟨payload_surrogateSample,
    (decodeAs_payload surrogateSample (fun _ => rfl) floatFree_surrogateSample
      payload_surrogateSample get?_surrogatePayload).1,
    rfl, rfl⟩

/-- Not all claims are decoded as they were but for their dates: a surrogate in a key is lost. -/
theorem not_decodeAs_withDates : surrogateSample.FloatFree
    ∧ surrogateSample.envelope.purpose = surrogateSample.type.purpose
    ∧ surrogateSample.payload = .ok surrogatePayload
    ∧ (∀ (claim : TimeClaim) (n : Int),
      surrogatePayload.get? (Text.ofString claim.wire) = some (.int n) → n.natAbs ≤ 20000000000)
    ∧ ∀ date?, decodeAs surrogateSample.type (.object surrogatePayload)
      ≠ .ok (surrogateSample.withDates date?) := by
  refine ⟨floatFree_surrogateSample, rfl, payload_surrogateSample, get?_surrogatePayload,
    fun date? hdecoded => ?_⟩
  rw [decodeAs_of_payload floatFree_surrogateSample payload_surrogateSample get?_surrogatePayload
    fun _ => rfl] at hdecoded
  -- The decoded claims have a property under another key.
  have hproperties := congrArg userProperties? (Except.ok.inj hdecoded)
  rw [userProperties?_withDates, userProperties?_withDates] at hproperties
  exact absurd hproperties (by decide)

end Claims

end FleetToken
