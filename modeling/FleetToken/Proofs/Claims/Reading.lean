import FleetToken.Claims.Validation
import Mathlib.Tactic.Common

/-!
# Reading claims

A combination of checks gives a value if and only if each of them does, whatever issues are
collected otherwise. So claims are read if and only if each field is, from the member under its
wire name, from the one under its plain name if there is no such member, and from its default if
there is neither.

## Main definitions

* `Reading.member?`: the member that a field is read from.

## Main results

* `Checked.map_eq_ok_iff`, `Checked.seq_eq_ok_iff`: combinations of checks.
* `Reading.field_eq_ok_iff`: the value of a field.
* `Reading.envelope_eq_ok_iff` and its like: claims are read field by field.
* `Claims.issuedAt_eq_some_iff`, `Claims.expiresAt_eq_some_iff`: the dates that claims state.
-/

namespace FleetToken

namespace Checked

variable {α β : Type}

@[simp]
theorem map_ok (f : α → β) (a : α) : f <$> ok a = ok (f a) := rfl

@[simp]
theorem seq_ok (f : α → β) (a : α) : ok f <*> ok a = ok (f a) := rfl

@[simp]
theorem under_ok (step : PathStep) (a : α) : (ok a).under step = ok a := rfl

theorem map_eq_ok_iff {f : α → β} {x : Checked α} {b : β} :
    f <$> x = ok b ↔ ∃ a, x = ok a ∧ f a = b := by
  cases x with
  | ok a => simp
  | issues found =>
    have hissues : f <$> (issues found : Checked α) = issues found := rfl
    simp [hissues]

theorem seq_eq_ok_iff {f : Checked (α → β)} {x : Checked α} {b : β} :
    f <*> x = ok b ↔ ∃ g a, f = ok g ∧ x = ok a ∧ g a = b := by
  cases f with
  | ok g =>
    cases x with
    | ok a => simp
    | issues found =>
      have hissues : ok g <*> (issues found : Checked α) = issues found := rfl
      simp [hissues]
  | issues found =>
    -- Issues of the function stay, whatever the argument adds to them.
    have hissues : ∃ more, (issues found : Checked (α → β)) <*> x = issues more := by
      cases x with
      | ok a => exact ⟨found, rfl⟩
      | issues more => exact ⟨found ++ more, rfl⟩
    obtain ⟨more, hmore⟩ := hissues
    simp [hmore]

/-- Naming the place of an error changes no value. -/
theorem under_eq_ok_iff {step : PathStep} {x : Checked α} {a : α} :
    x.under step = ok a ↔ x = ok a := by
  cases x with
  | ok a => simp
  | issues found => simp [under]

/-- All checks give a value if each of them does. -/
theorem all_ok (values : List α) : all (values.map ok) = ok values := by
  induction values with
  | nil => rfl
  | cons value values ih => rw [List.map_cons, all, ih, map_ok, seq_ok]

end Checked

namespace Reading

/-- The member that a field is read from: the one under its wire name comes first. -/
def member? (payload : Members) (name : FieldName) : Option Json :=
  (payload.get? (Text.ofString name.wire)).or (payload.get? (Text.ofString name.name))

variable {α : Type} {payload : Members} {name : FieldName} {default a : α}
  {read : Json → Checked α}

/-- A field is read from its member, or is the default if there is none. -/
theorem field_eq_ok_iff : field payload name default read = .ok a ↔
    (∃ value, member? payload name = some value ∧ read value = .ok a)
      ∨ (member? payload name = none ∧ default = a) := by
  rw [field.eq_def, member?]
  simp only
  -- The plain name is only looked up when nothing stands under the wire name.
  cases hwire : payload.get? (Text.ofString name.wire) with
  | some value => simp [Checked.under_eq_ok_iff]
  | none =>
    cases hplain : payload.get? (Text.ofString name.name) with
    | some value => simp [Checked.under_eq_ok_iff]
    | none => simp

theorem field_of_some {value : Json} (h : member? payload name = some value)
    (hread : read value = .ok a) : field payload name default read = .ok a :=
  field_eq_ok_iff.mpr (.inl ⟨value, h, hread⟩)

theorem field_of_none (h : member? payload name = none) :
    field payload name default read = .ok default :=
  field_eq_ok_iff.mpr (.inr ⟨h, rfl⟩)

/-! ## Claims field by field -/

/-- The permissions of a client are read one by one. -/
theorem clientPermissions_eq_ok_iff {p : ClientPermissions} :
    clientPermissions (.object payload) = .ok p ↔
      permission payload "streams_admin" = .ok p.streamsAdmin
        ∧ permission payload "streams_user" = .ok p.streamsUser
        ∧ permission payload "events_viewer" = .ok p.eventsViewer
        ∧ permission payload "election_user" = .ok p.electionUser
        ∧ permission payload "system_user" = .ok p.systemUser
        ∧ permission payload "fleet_management" = .ok p.fleetManagement
        ∧ permission payload "signed_fleet_management" = .ok p.signedFleetManagement
        ∧ permission payload "extended_service_lifetime" = .ok p.extendedServiceLifetime
        ∧ permission payload "authentication_delegator" = .ok p.authenticationDelegator
        ∧ permission payload "org_admin" = .ok p.orgAdmin := by
  cases p
  simp only [clientPermissions, Checked.seq_eq_ok_iff, Checked.map_eq_ok_iff, exists_and_left,
    exists_exists_and_eq_and, exists_exists_and_exists_and_eq_and, ↓existsAndEq, and_true,
    and_assoc, ClientPermissions.mk.injEq]

/-- The permissions of a server are read one by one. -/
theorem serverPermissions_eq_ok_iff {p : ServerPermissions} :
    serverPermissions (.object payload) = .ok p ↔
      permission payload "submission" = .ok p.submission
        ∧ permission payload "streams" = .ok p.streams
        ∧ permission payload "service_host" = .ok p.serviceHost := by
  cases p
  simp only [serverPermissions, Checked.seq_eq_ok_iff, Checked.map_eq_ok_iff, exists_and_left,
    exists_exists_and_eq_and, exists_exists_and_exists_and_eq_and, ↓existsAndEq, and_true,
    ServerPermissions.mk.injEq]

/-- The envelope is read field by field, and its extensions are the members left over. -/
theorem envelope_eq_ok_iff {kind : ClaimsType} {c : StandardClaims} :
    envelope kind payload = .ok c ↔
      field payload .purpose kind.purpose (fun value => .ok (Purpose.ofJson value)) = .ok c.purpose
        ∧ field payload .issuer [] text = .ok c.issuer
        ∧ field payload .subject none (optional text) = .ok c.subject
        ∧ field payload .issuedAt none (optional Timestamp.ofJson) = .ok c.issuedAt
        ∧ field payload .notBefore none (optional Timestamp.ofJson) = .ok c.notBefore
        ∧ field payload .expiresAt none (optional Timestamp.ofJson) = .ok c.expiresAt
        ∧ field payload .tokenId none (optional text) = .ok c.tokenId
        ∧ field payload .trustChainSignature none (optional text)
          = .ok c.trustChainSignature := by
  cases c
  simp only [envelope, Checked.seq_eq_ok_iff, Checked.map_eq_ok_iff, exists_and_left,
    exists_exists_and_eq_and, exists_exists_and_exists_and_eq_and, ↓existsAndEq, and_true,
    and_assoc, StandardClaims.mk.injEq]

/-- Provisioning claims are read field by field. -/
theorem provisioning_eq_ok_iff {c : ProvisioningClaims} :
    provisioning payload = .ok c ↔ envelope .provisioning payload = .ok c.toStandardClaims
      ∧ field payload .secure false flag = .ok c.secure
      ∧ field payload .urls none (optional text) = .ok c.urls
      ∧ field payload .token [] text = .ok c.token
      ∧ field payload .srvDomain none (optional text) = .ok c.srvDomain
      ∧ field payload .provisionByDefault false flag = .ok c.provisionByDefault
      ∧ field payload .registrationData none (optional text) = .ok c.registrationData
      ∧ field payload .factsData none (optional text) = .ok c.factsData
      ∧ field payload .brokerUser none (optional text) = .ok c.brokerUser
      ∧ field payload .brokerPassword none (optional text) = .ok c.brokerPassword
      ∧ field payload .organization none (optional text) = .ok c.organization
      ∧ field payload .protocolV2 none (optional flag) = .ok c.protocolV2
      ∧ field payload .allowUpdate none (optional flag) = .ok c.allowUpdate
      ∧ field payload .extensions none (optional members) = .ok c.extensions := by
  cases c
  simp only [provisioning, Checked.seq_eq_ok_iff, Checked.map_eq_ok_iff, exists_and_left,
    exists_exists_and_eq_and, exists_exists_and_exists_and_eq_and, ↓existsAndEq, and_true,
    and_assoc, ProvisioningClaims.mk.injEq]

/-- Client claims are read field by field. -/
theorem client_eq_ok_iff {c : ClientClaims} :
    client payload = .ok c ↔ envelope .client payload = .ok c.toStandardClaims
      ∧ field payload .publicKey [] text = .ok c.publicKey
      ∧ field payload .callerId [] text = .ok c.callerId
      ∧ field payload .allowedAgents none (optional texts) = .ok c.allowedAgents
      ∧ field payload .opaPolicy none (optional text) = .ok c.opaPolicy
      ∧ field payload .permissions none (optional clientPermissions) = .ok c.permissions
      ∧ field payload .userProperties none (optional properties) = .ok c.userProperties
      ∧ field payload .additionalPublishSubjects none (optional texts)
        = .ok c.additionalPublishSubjects
      ∧ field payload .organization none (optional text) = .ok c.organization := by
  cases c
  simp only [client, Checked.seq_eq_ok_iff, Checked.map_eq_ok_iff, exists_and_left,
    exists_exists_and_eq_and, exists_exists_and_exists_and_eq_and, ↓existsAndEq, and_true,
    and_assoc, ClientClaims.mk.injEq]

/-- Server claims are read field by field. -/
theorem server_eq_ok_iff {c : ServerClaims} :
    server payload = .ok c ↔ envelope .server payload = .ok c.toStandardClaims
      ∧ field payload .publicKey [] text = .ok c.publicKey
      ∧ field payload .identity [] text = .ok c.identity
      ∧ field payload .collectives [] texts = .ok c.collectives
      ∧ field payload .permissions none (optional serverPermissions) = .ok c.permissions
      ∧ field payload .additionalPublishSubjects none (optional texts)
        = .ok c.additionalPublishSubjects
      ∧ field payload .organization none (optional text) = .ok c.organization := by
  cases c
  simp only [server, Checked.seq_eq_ok_iff, Checked.map_eq_ok_iff, exists_and_left,
    exists_exists_and_eq_and, exists_exists_and_exists_and_eq_and, ↓existsAndEq, and_true,
    and_assoc, ServerClaims.mk.injEq]

end Reading

/-- The claims of a kind have the envelope that the payload has for that kind. -/
theorem Claims.envelope_of_ofMembers {kind : ClaimsType} {payload : Members} {claims : Claims}
    (h : ofMembers kind payload = .ok claims) :
    claims.type = kind ∧ Reading.envelope kind payload = .ok claims.envelope := by
  -- Every kind reads the envelope first and its own fields after it.
  cases kind with
  | standard =>
    obtain ⟨c, hc, rfl⟩ := Checked.map_eq_ok_iff.mp h
    exact ⟨rfl, hc⟩
  | provisioning =>
    obtain ⟨c, hc, rfl⟩ := Checked.map_eq_ok_iff.mp h
    exact ⟨rfl, (Reading.provisioning_eq_ok_iff.mp hc).1⟩
  | client =>
    obtain ⟨c, hc, rfl⟩ := Checked.map_eq_ok_iff.mp h
    exact ⟨rfl, (Reading.client_eq_ok_iff.mp hc).1⟩
  | server =>
    obtain ⟨c, hc, rfl⟩ := Checked.map_eq_ok_iff.mp h
    exact ⟨rfl, (Reading.server_eq_ok_iff.mp hc).1⟩

/-! ## Dates -/

/-- The date of a field is that of the member that it is read from; `null` is no date. -/
theorem Reading.eq_some_iff_of_field {payload : Members} {name : FieldName}
    {found : Option Timestamp}
    (h : field payload name none (optional Timestamp.ofJson) = .ok found) {date : Timestamp} :
    found = some date ↔ ∃ value, member? payload name = some value
      ∧ Timestamp.ofJson value = .ok date := by
  rcases field_eq_ok_iff.mp h with ⟨value, hvalue, hread⟩ | ⟨hnone, rfl⟩
  · rw [hvalue]
    simp only [Option.some.injEq, exists_eq_left']
    cases value with
    | null =>
      rw [← Checked.ok.inj hread]
      simp [Timestamp.ofJson, Checked.fault]
    | _ =>
      obtain ⟨other, hother, rfl⟩ := Checked.map_eq_ok_iff.mp hread
      rw [hother]
      simp
  · simp [hnone]

namespace Claims

variable {kind : ClaimsType} {payload : Members} {claims : Claims}
  (h : ofMembers kind payload = .ok claims) {date : Timestamp}
include h

/-- Claims have a date of issue if the payload has a member for it that is read as this date. -/
theorem issuedAt_eq_some_iff : claims.envelope.issuedAt = some date ↔
    ∃ value, Reading.member? payload .issuedAt = some value
      ∧ Timestamp.ofJson value = .ok date := by
  obtain ⟨-, -, -, hfield, -⟩ := Reading.envelope_eq_ok_iff.mp (envelope_of_ofMembers h).2
  exact Reading.eq_some_iff_of_field hfield

/-- Claims have a date of expiry if the payload has a member for it that is read as this date. -/
theorem expiresAt_eq_some_iff : claims.envelope.expiresAt = some date ↔
    ∃ value, Reading.member? payload .expiresAt = some value
      ∧ Timestamp.ofJson value = .ok date := by
  obtain ⟨-, -, -, -, -, hfield, -⟩ := Reading.envelope_eq_ok_iff.mp (envelope_of_ofMembers h).2
  exact Reading.eq_some_iff_of_field hfield

end Claims

end FleetToken
