import FleetToken.Claims.Building
import FleetToken.Proofs.Outcome
import Mathlib.Tactic.Common

/-!
# Built claims

There are four builders: one for the envelope alone, and one for each kind of token, which takes an
envelope and adds the fields of its kind. A kind first looks at the arguments that only it has. Then
the envelope is built, and the organization is looked at last.

## Main definitions

* `BuildRequest`: a call of one of the builders, and `BuildRequest.build`: what it gives.
* `BuildRequest.IsComplete`: the arguments that only one kind has are acceptable.
* `BuildRequest.claims`: the claims that a call asks for, under an envelope.

## Main results

* `StandardClaims.build_eq_ok_iff`: when an envelope is built, and which one.
* `BuildRequest.build_eq`: a complete call takes its envelope and checks its organization.
* `BuildRequest.build_eq_ok_iff`: when claims are built, and which ones.
-/

namespace FleetToken

/-! ## The envelope -/

/-- The span is the wished one, if there is one, and that of the settings otherwise. -/
theorem Settings.validity_eq_ok_iff {settings : Settings} {wished : Option Duration}
    {span : Duration} : settings.validity wished = .ok span ↔
      (wished = some span ∧ 0 < span.micros)
        ∨ (wished = none ∧ Duration.ofSeconds? settings.defaultValidity = some span) := by
  cases wished with
  | some d =>
    by_cases hd : d.micros ≤ 0
    · have hnot : ¬(d = span ∧ 0 < span.micros) := by
        rintro ⟨rfl, hpos⟩
        omega
      simp [validity, hd, hnot]
    · simp only [validity, hd, ↓reduceIte, Except.ok.injEq, Option.some.injEq, reduceCtorEq,
        false_and, or_false]
      exact ⟨fun h => ⟨h, h ▸ Int.not_le.mp hd⟩, fun h => h.1⟩
  | none =>
    rw [validity]
    cases Duration.ofSeconds? settings.defaultValidity <;> simp

/-- A wished span is positive, and that of the settings is if its number of seconds is. -/
theorem Settings.micros_pos_iff_of_validity {settings : Settings} {wished : Option Duration}
    {span : Duration} (h : settings.validity wished = .ok span) :
    0 < span.micros ↔ wished.isSome ∨ 0 < settings.defaultValidity := by
  rcases validity_eq_ok_iff.mp h with ⟨rfl, hpos⟩ | ⟨rfl, hspan⟩
  · simp [hpos]
  · simp only [Duration.ofSeconds?, Duration.ofMicros?, Option.ite_none_right_eq_some,
      Option.some.injEq] at hspan
    obtain ⟨-, rfl⟩ := hspan
    simp only [Option.isSome_none, Bool.false_eq_true, false_or, microsPerSecond]
    omega

/-- An envelope is built under settings that can be read, for a known purpose, with a span that is
allowed and an end that is represented. -/
theorem StandardClaims.build_eq_ok_iff {s : Surroundings} {issuer : Text} {purpose : Purpose}
    {validity : Option Duration} {subjectIsPurpose : Bool} {c : StandardClaims} :
    build s issuer purpose validity subjectIsPurpose = .ok c ↔
      ∃ settings span expiresAt, s.settings = .ok settings ∧ purpose ≠ .unknown
        ∧ settings.validity validity = .ok span
        ∧ s.clock.wholeSecond.add? span = some expiresAt
        ∧ c = {
          purpose
          issuer := issuer.nonEmpty?.getD settings.defaultIssuer
          subject := if subjectIsPurpose then some purpose.text else none
          issuedAt := some s.clock.wholeSecond
          notBefore := some s.clock.wholeSecond
          expiresAt := some expiresAt
          tokenId := some s.freshId } := by
  rw [build, bind_eq_ok_iff]
  refine exists_congr fun settings => ?_
  by_cases hpurpose : purpose = .unknown
  · simp [hpurpose]
  · simp only [hpurpose, ↓reduceIte, bind_eq_ok_iff, pure_eq_ok, ne_eq, not_false_eq_true,
      true_and]
    constructor
    · rintro ⟨hsettings, span, hspan, h⟩
      split at h
      · contradiction
      · rename_i expiresAt hexpires
        exact ⟨span, expiresAt, hsettings, hspan, hexpires, (Except.ok.inj h).symm⟩
    · rintro ⟨span, expiresAt, hsettings, hspan, hexpires, rfl⟩
      refine ⟨hsettings, span, hspan, ?_⟩
      rw [hexpires]

/-! ## Calls of the builders -/

/-- A call of one of the builders. -/
inductive BuildRequest where
  /-- A call for the envelope alone. -/
  | standard (issuer : Text) (purpose : Purpose) (validity : Option Duration)
    (subjectIsPurpose : Bool)
  /-- A call for provisioning claims. -/
  | provisioning (r : ProvisioningRequest)
  /-- A call for the claims of a client. -/
  | client (r : ClientRequest)
  /-- A call for the claims of a server. -/
  | server (r : ServerRequest)

/-- What is asked for with no more than a domain to find the brokers by. -/
def ProvisioningRequest.sample : ProvisioningRequest where
  secure := true
  byDefault := false
  token := []
  user := []
  password := []
  urls := []
  srvDomain := Text.ofString "example.net"
  registrationDataFile := []
  factsDataFile := []
  organization := Text.ofString "fleet"
  issuer := []
  validity := none

namespace BuildRequest

/-- The claims that are built. -/
def build (s : Surroundings) : BuildRequest → Except Failure Claims
  | .standard issuer purpose validity subjectIsPurpose =>
    (StandardClaims.build s issuer purpose validity subjectIsPurpose).map .standard
  | .provisioning r => (ProvisioningClaims.build s r).map .provisioning
  | .client r => (ClientClaims.build s r).map .client
  | .server r => (ServerClaims.build s r).map .server

/-- The purpose that the claims are to state. -/
def purpose : BuildRequest → Purpose
  | .standard _ purpose _ _ => purpose
  | .provisioning _ => .provisioning
  | .client _ => .client
  | .server _ => .server

/-- How long the claims are wished to be valid. -/
def validity : BuildRequest → Option Duration
  | .standard _ _ validity _ => validity
  | .provisioning r => r.validity
  | .client r => r.validity
  | .server r => r.validity

/-- The organization, which the envelope alone does not have. -/
def organization? : BuildRequest → Option Text
  | .standard .. => none
  | .provisioning r => some r.organization
  | .client r => some r.organization
  | .server r => some r.organization

/-- The check of the organization, where there is one. -/
def checkName (r : BuildRequest) : Except Failure Unit :=
  match r.organization? with
  | none => .ok ()
  | some t => (checkOrganization t).map fun _ => ()

/-- The envelope that the call takes. -/
def envelope (s : Surroundings) : BuildRequest → Except Failure StandardClaims
  | .standard issuer purpose validity subjectIsPurpose =>
    StandardClaims.build s issuer purpose validity subjectIsPurpose
  | .provisioning r => StandardClaims.build s r.issuer .provisioning r.validity true
  | .client r => StandardClaims.build s r.issuer .client r.validity false
  | .server r => StandardClaims.build s r.issuer .server r.validity false

/-- The arguments that only this kind has are acceptable: a place to provision, or an identity with
a public key, and for a server its collectives. -/
def IsComplete : BuildRequest → Prop
  | .standard .. => True
  | .provisioning r => r.urls ≠ [] ∨ r.srvDomain ≠ []
  | .client r => r.callerId ≠ [] ∧ ∃ t, embeddedPublicKey r.publicKey = .ok t
  | .server r => r.identity ≠ [] ∧ r.collectives ≠ [] ∧ [] ∉ r.collectives
    ∧ ∃ t, embeddedPublicKey r.publicKey = .ok t

/-- The claims that a complete call asks for, under an envelope. -/
def claims (envelope : StandardClaims) : BuildRequest → Claims
  | .standard .. => .standard envelope
  | .provisioning r => .provisioning {
      toStandardClaims := envelope
      secure := r.secure
      provisionByDefault := r.byDefault
      token := r.token
      brokerUser := r.user.nonEmpty?
      brokerPassword := r.password.nonEmpty?
      urls := (listNonEmpty? r.urls).map (Text.join (CodePoint.ofChar ','))
      srvDomain := r.srvDomain.nonEmpty?
      registrationData := r.registrationDataFile.nonEmpty?
      factsData := r.factsDataFile.nonEmpty?
      organization := some r.organization }
  | .client r => .client {
      toStandardClaims := { envelope with subject := some r.callerId }
      callerId := r.callerId
      allowedAgents := listNonEmpty? r.allowedAgents
      organization := some r.organization
      userProperties := listNonEmpty? r.properties
      opaPolicy := r.opaPolicy.nonEmpty?
      permissions := r.permissions
      publicKey := (embeddedPublicKey r.publicKey).toOption.getD [] }
  | .server r => .server {
      toStandardClaims := { envelope with subject := some r.identity }
      identity := r.identity
      collectives := r.collectives
      organization := some r.organization
      permissions := r.permissions
      additionalPublishSubjects := listNonEmpty? r.additionalPublish
      publicKey := (embeddedPublicKey r.publicKey).toOption.getD [] }

end BuildRequest

/-- An organization is taken as it stands. -/
theorem checkOrganization_eq_ok_iff {t name : Text} :
    checkOrganization t = .ok name ↔ t = name ∧ isOrganization t = true := by
  rw [checkOrganization]
  split
  · rename_i hempty
    simp [hempty, isOrganization]
  split
  · rename_i haccepted
    simp [haccepted]
  · rename_i hrefused
    simp [hrefused]

/-- The check of an organization fails only with a report on the claims. -/
theorem invalidClaims_of_checkOrganization {t : Text} {failure : Failure}
    (h : checkOrganization t = .error failure) :
    ∃ fault, failure = .token (.invalidClaims fault) := by
  rw [checkOrganization] at h
  split at h
  · exact ⟨_, (Except.error.inj h).symm⟩
  split at h
  · contradiction
  · exact ⟨_, (Except.error.inj h).symm⟩

namespace BuildRequest

variable {s : Surroundings} {r : BuildRequest} {c : Claims}

/-- All kinds of calls take the envelope from the same builder. -/
theorem exists_envelope_eq (s : Surroundings) (r : BuildRequest) : ∃ issuer subjectIsPurpose,
    r.envelope s = StandardClaims.build s issuer r.purpose r.validity subjectIsPurpose := by
  cases r <;> exact ⟨_, _, rfl⟩

/-- What is made of an organization that passes its check is made of it as it was given. -/
theorem map_checkOrganization_bind {α β : Type} (t : Text) (f : Text → α) (g : α → β) :
    (checkOrganization t >>= fun name => pure (f name)).map g
      = ((checkOrganization t).map fun _ => ()).map fun _ => g (f t) := by
  cases hname : checkOrganization t with
  | error failure => rfl
  | ok name =>
    obtain rfl := (checkOrganization_eq_ok_iff.mp hname).1
    rfl

/-- A complete call takes its envelope, and then its organization is checked. -/
theorem build_eq (h : r.IsComplete) : r.build s = r.envelope s >>= fun envelope =>
    r.checkName.map fun _ => r.claims envelope := by
  cases r with
  | standard =>
    rw [build, envelope]
    cases StandardClaims.build s _ _ _ _ with
    | error failure => rfl
    | ok envelope => rfl
  | provisioning r =>
    have hplace : ¬(r.urls = [] ∧ r.srvDomain = []) := not_and_or.mpr h
    simp only [build, ProvisioningClaims.build, hplace, ↓reduceIte, envelope, checkName,
      organization?]
    cases StandardClaims.build s r.issuer .provisioning r.validity true with
    | error failure => rfl
    | ok envelope => exact map_checkOrganization_bind _ _ _
  | client r =>
    obtain ⟨hcaller, key, hkey⟩ := h
    simp only [build, ClientClaims.build, hcaller, ↓reduceIte, hkey, ok_bind, envelope, checkName,
      organization?, claims]
    cases StandardClaims.build s r.issuer .client r.validity false with
    | error failure => rfl
    | ok envelope => exact map_checkOrganization_bind _ _ _
  | server r =>
    obtain ⟨hidentity, hsome, hnamed, key, hkey⟩ := h
    simp only [build, ServerClaims.build, hidentity, hsome, hnamed, ↓reduceIte, or_self, hkey,
      ok_bind, envelope, checkName, organization?, claims]
    cases StandardClaims.build s r.issuer .server r.validity false with
    | error failure => rfl
    | ok envelope => exact map_checkOrganization_bind _ _ _

/-- A complete call with an envelope depends on its organization alone. -/
theorem build_eq_of_envelope {envelope : StandardClaims} {t : Text} (h : r.IsComplete)
    (henvelope : r.envelope s = .ok envelope) (ht : r.organization? = some t) :
    r.build s = (checkOrganization t).map fun _ => r.claims envelope := by
  rw [build_eq h, henvelope, ok_bind]
  simp only [checkName, ht]
  cases checkOrganization t with
  | error failure => rfl
  | ok name => rfl

/-- Only complete calls succeed, and only with an envelope. -/
theorem isComplete_of_build (h : r.build s = .ok c) :
    r.IsComplete ∧ ∃ envelope, r.envelope s = .ok envelope := by
  cases r with
  | standard =>
    obtain ⟨envelope, henvelope, -⟩ := map_eq_ok_iff.mp h
    exact ⟨trivial, envelope, henvelope⟩
  | provisioning r =>
    obtain ⟨built, hbuilt, -⟩ := map_eq_ok_iff.mp h
    rw [ProvisioningClaims.build] at hbuilt
    -- Each builder looks at its own arguments before it takes the envelope.
    by_cases hplace : r.urls = [] ∧ r.srvDomain = []
    · simp [hplace] at hbuilt
    · simp only [hplace, ↓reduceIte] at hbuilt
      obtain ⟨envelope, henvelope, -⟩ := bind_eq_ok_iff.mp hbuilt
      exact ⟨not_and_or.mp hplace, envelope, henvelope⟩
  | client r =>
    obtain ⟨built, hbuilt, -⟩ := map_eq_ok_iff.mp h
    rw [ClientClaims.build] at hbuilt
    by_cases hcaller : r.callerId = []
    · simp [hcaller] at hbuilt
    · simp only [hcaller, ↓reduceIte] at hbuilt
      obtain ⟨key, hkey, hbuilt⟩ := bind_eq_ok_iff.mp hbuilt
      obtain ⟨envelope, henvelope, -⟩ := bind_eq_ok_iff.mp hbuilt
      exact ⟨⟨hcaller, key, hkey⟩, envelope, henvelope⟩
  | server r =>
    obtain ⟨built, hbuilt, -⟩ := map_eq_ok_iff.mp h
    rw [ServerClaims.build] at hbuilt
    by_cases hidentity : r.identity = []
    · simp [hidentity] at hbuilt
    by_cases hcollectives : r.collectives = [] ∨ [] ∈ r.collectives
    · simp [hidentity, hcollectives] at hbuilt
    · simp only [hidentity, hcollectives, ↓reduceIte] at hbuilt
      obtain ⟨key, hkey, hbuilt⟩ := bind_eq_ok_iff.mp hbuilt
      obtain ⟨envelope, henvelope, -⟩ := bind_eq_ok_iff.mp hbuilt
      obtain ⟨hsome, hnamed⟩ := not_or.mp hcollectives
      exact ⟨⟨hidentity, hsome, hnamed, key, hkey⟩, envelope, henvelope⟩

/-- Claims are built by complete calls with an envelope, whose organization is accepted. -/
theorem build_eq_ok_iff : r.build s = .ok c ↔ r.IsComplete
    ∧ (∀ t, r.organization? = some t → isOrganization t = true)
    ∧ ∃ envelope, r.envelope s = .ok envelope ∧ r.claims envelope = c := by
  cases ht : r.organization? with
  | none =>
    -- Only the envelope alone has no organization.
    cases r with
    | standard => simp [build, map_eq_ok_iff, IsComplete, envelope, claims]
    | provisioning | client | server => contradiction
  | some t =>
    simp only [Option.some.injEq, forall_eq']
    constructor
    · intro h
      obtain ⟨hcomplete, envelope, henvelope⟩ := isComplete_of_build h
      rw [build_eq_of_envelope hcomplete henvelope ht, map_eq_ok_iff] at h
      obtain ⟨name, hname, hclaims⟩ := h
      exact ⟨hcomplete, (checkOrganization_eq_ok_iff.mp hname).2, envelope, henvelope, hclaims⟩
    · rintro ⟨hcomplete, haccepted, envelope, henvelope, hclaims⟩
      rw [build_eq_of_envelope hcomplete henvelope ht,
        checkOrganization_eq_ok_iff.mpr ⟨rfl, haccepted⟩, ← hclaims]
      rfl

end BuildRequest

end FleetToken
