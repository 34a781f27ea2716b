import FleetToken.Proofs.Claims.RoundTrip

/-!
# What decoding looks at

Claims of a kind are decoded from the members under the names of their fields. Whatever else stands
in a payload is passed over, and so is a member under the plain name of a field whose wire name is
there too. So a claim cannot be smuggled past a reader under its second name.

## Main definitions

* `ClaimsType.Recognizes`: the keys that are names of fields of a kind.
* `FieldName.Agrees`: two payloads have the same member for a field.

## Main results

* `Reading.field_congr`: a field depends on its own member.
* `Claims.decodeAs_congr`: claims depend on the members of their fields.
* `Claims.decodeAs_recognized`: unknown members, order and second names change nothing.
-/

namespace FleetToken

/-! ## Members that agree -/

/-- A key is the wire name or the plain name of a field. -/
def ClaimsType.Recognizes (kind : ClaimsType) (key : Text) : Prop :=
  ∃ name ∈ kind.fieldNames, key = Text.ofString name.wire ∨ key = Text.ofString name.name

/-- Two payloads have the same value under the wire name of a field; or neither has one there, and
they have the same value, or none, under its plain name. -/
def FieldName.Agrees (name : FieldName) (p q : Members) : Prop :=
  (∃ value, p.get? (Text.ofString name.wire) = some value
    ∧ q.get? (Text.ofString name.wire) = some value)
  ∨ (p.get? (Text.ofString name.wire) = none ∧ q.get? (Text.ofString name.wire) = none
    ∧ p.get? (Text.ofString name.name) = q.get? (Text.ofString name.name))

/-- Payloads agree on a field if they have the same under both of its names. -/
theorem FieldName.agrees_of_get? {name : FieldName} {p q : Members}
    (hwire : p.get? (Text.ofString name.wire) = q.get? (Text.ofString name.wire))
    (hplain : p.get? (Text.ofString name.name) = q.get? (Text.ofString name.name)) :
    name.Agrees p q := by
  cases hp : p.get? (Text.ofString name.wire) with
  | none => exact .inr ⟨hp, hwire.symm.trans hp, hplain⟩
  | some value => exact .inl ⟨value, hp, hwire.symm.trans hp⟩

namespace Reading

variable {p q : Members}

/-- A field, its issues included, depends on its own member. -/
theorem field_congr {α : Type} {name : FieldName} (h : name.Agrees p q) (default : α)
    (read : Json → Checked α) : field p name default read = field q name default read := by
  rw [field.eq_def, field.eq_def]
  rcases h with ⟨value, hp, hq⟩ | ⟨hp, hq, hplain⟩
  · simp only [hp, hq]
  · simp only [hp, hq, hplain]

/-- Payloads that agree on the names of the envelope have the same envelope. -/
theorem envelope_congr (h : ∀ name ∈ envelopeNames, name.Agrees p q) (kind : ClaimsType) :
    envelope kind p = envelope kind q := by
  simp only [envelopeNames, List.forall_mem_cons] at h
  obtain ⟨hpurpose, hissuer, hsubject, hissuedAt, hnotBefore, hexpiresAt, htokenId, hchain, -⟩ := h
  simp only [envelope, field_congr hpurpose, field_congr hissuer, field_congr hsubject,
    field_congr hissuedAt, field_congr hnotBefore, field_congr hexpiresAt, field_congr htokenId,
    field_congr hchain]

end Reading

/-- Claims of a kind, or the issues that stand in their way, depend on the members of the fields of
the kind. -/
theorem Claims.ofMembers_congr {kind : ClaimsType} {p q : Members}
    (h : ∀ name ∈ kind.fieldNames, name.Agrees p q) : ofMembers kind p = ofMembers kind q := by
  rw [ClaimsType.fieldNames, List.forall_mem_append] at h
  obtain ⟨henvelope, hown⟩ := h
  have henvelope := Reading.envelope_congr henvelope kind
  -- Each kind reads its own fields after those of the envelope, one by one.
  cases kind with
  | standard => rw [ofMembers, ofMembers, henvelope]
  | provisioning =>
    simp only [ClaimsType.ownNames, List.forall_mem_cons] at hown
    obtain ⟨hsecure, hurls, htoken, hsrvDomain, hbyDefault, hregistration, hfacts, huser, hpassword,
      horganization, hprotocol, hupdate, hextensions, -⟩ := hown
    simp only [ofMembers, Reading.provisioning, henvelope, Reading.field_congr hsecure,
      Reading.field_congr hurls, Reading.field_congr htoken, Reading.field_congr hsrvDomain,
      Reading.field_congr hbyDefault, Reading.field_congr hregistration, Reading.field_congr hfacts,
      Reading.field_congr huser, Reading.field_congr hpassword, Reading.field_congr horganization,
      Reading.field_congr hprotocol, Reading.field_congr hupdate, Reading.field_congr hextensions]
  | client =>
    simp only [ClaimsType.ownNames, List.forall_mem_cons] at hown
    obtain ⟨hkey, hcaller, hagents, hpolicy, hpermissions, hproperties, hsubjects,
      horganization, -⟩ := hown
    simp only [ofMembers, Reading.client, henvelope, Reading.field_congr hkey,
      Reading.field_congr hcaller, Reading.field_congr hagents, Reading.field_congr hpolicy,
      Reading.field_congr hpermissions, Reading.field_congr hproperties,
      Reading.field_congr hsubjects, Reading.field_congr horganization]
  | server =>
    simp only [ClaimsType.ownNames, List.forall_mem_cons] at hown
    obtain ⟨hkey, hidentity, hcollectives, hpermissions, hsubjects, horganization, -⟩ := hown
    simp only [ofMembers, Reading.server, henvelope, Reading.field_congr hkey,
      Reading.field_congr hidentity, Reading.field_congr hcollectives,
      Reading.field_congr hpermissions, Reading.field_congr hsubjects,
      Reading.field_congr horganization]

/-! ## What changes nothing -/

namespace FieldName

variable {kind : ClaimsType} {name : FieldName} {p q : Members} {key : Text}

/-- A value under a key that is neither name of a field changes nothing for it. -/
theorem agrees_insert (hwire : key ≠ Text.ofString name.wire)
    (hplain : key ≠ Text.ofString name.name) (p : Members) (value : Json) :
    name.Agrees (p.insert key value) p :=
  agrees_of_get? (Members.get?_insert_of_ne value hwire.symm)
    (Members.get?_insert_of_ne value hplain.symm)

/-- A value under the plain name of a field changes nothing for any field of the kind, if the field
has a value under a wire name that differs from it. -/
theorem agrees_insert_plain {other : FieldName} (hname : name ∈ kind.fieldNames)
    (hother : other ∈ kind.fieldNames) (hdiffers : name.name ≠ name.wire)
    (hwire : p.get? (Text.ofString name.wire) ≠ none) (value : Json) :
    other.Agrees (p.insert (Text.ofString name.name) value) p := by
  by_cases hsame : name = other
  · subst hsame
    obtain ⟨found, hfound⟩ := Option.ne_none_iff_exists'.mp hwire
    refine .inl ⟨found, ?_, hfound⟩
    rw [Members.get?_insert_of_ne value fun h => hdiffers (Text.ofString_injective h).symm, hfound]
  · -- No other field goes by this name, in tokens or elsewhere.
    have hsymm : Std.Symm fun a b : FieldName => a.Apart b ∧ a.name ≠ b.name :=
      ⟨fun _ _ h => ⟨symm h.1, h.2.symm⟩⟩
    obtain ⟨hapart, hplain⟩ := kind.pairwise_fieldNames.forall hname hother hsame
    exact agrees_insert (fun h => hapart.2.1 (Text.ofString_injective h))
      (fun h => hplain (Text.ofString_injective h)) p value

end FieldName

namespace Claims

variable {kind : ClaimsType} {p q : Members}

/-- What is decoded from a payload depends on the members of the fields of the kind. -/
theorem decodeAs_congr (h : ∀ name ∈ kind.fieldNames, name.Agrees p q) :
    decodeAs kind (.object p) = decodeAs kind (.object q) := by
  rw [decodeAs_eq, decodeAs_eq, validate, validate, ofMembers_congr h]

/-- Claims of a kind are decoded, or refused with all their issues, from the members of the fields
of the kind alone. So a value under a key that is no name of a field changes nothing, the order of
the members does not, and neither does a value under the plain name of a field that has one under
its wire name. -/
theorem decodeAs_recognized (kind : ClaimsType) (p : Members) :
    (∀ q, (∀ name ∈ kind.fieldNames, name.Agrees p q) →
      decodeAs kind (.object p) = decodeAs kind (.object q))
    ∧ (∀ key value, ¬kind.Recognizes key →
      decodeAs kind (.object (p.insert key value)) = decodeAs kind (.object p))
    ∧ (∀ q, p.keys.Nodup → p.Perm q → decodeAs kind (.object q) = decodeAs kind (.object p))
    ∧ ∀ name ∈ kind.fieldNames, ∀ value, name.name ≠ name.wire →
      p.get? (Text.ofString name.wire) ≠ none →
      decodeAs kind (.object (p.insert (Text.ofString name.name) value))
        = decodeAs kind (.object p) := by
  refine ⟨fun q => decodeAs_congr, fun key value hkey => decodeAs_congr fun name hname => ?_,
    fun q hkeys hperm => decodeAs_congr fun name _ => ?_,
    fun name hname value hdiffers hwire => decodeAs_congr fun other hother => ?_⟩
  · exact FieldName.agrees_insert (fun h => hkey ⟨name, hname, .inl h⟩)
      (fun h => hkey ⟨name, hname, .inr h⟩) p value
  · exact FieldName.agrees_of_get? (Members.get?_of_perm hkeys hperm _)
      (Members.get?_of_perm hkeys hperm _)
  · exact FieldName.agrees_insert_plain hname hother hdiffers hwire value

/-- The payload of a server token that states its issuer under the wire name. -/
def issuedSample : Members :=
  [(Text.ofString "purpose", .string Purpose.server.text),
    (Text.ofString "iss", .string (Text.ofString "fleet"))]

/-- Another issuer under the plain name is passed over. -/
theorem decodeAs_secondIssuer :
    decodeAs .server (.object (issuedSample.insert (Text.ofString "issuer")
        (.string (Text.ofString "intruder"))))
      = .ok (.server { purpose := .server, issuer := Text.ofString "fleet" }) := by
  obtain ⟨-, -, -, hplain⟩ := decodeAs_recognized .server issuedSample
  have hwire : issuedSample.get? (Text.ofString FieldName.issuer.wire) ≠ none := by
    decide
  exact (hplain .issuer (by decide) _ (by decide) hwire).trans rfl

end Claims

end FleetToken
