import FleetToken.Proofs.Claims.Building
import FleetToken.Proofs.Claims.Payload
import FleetToken.Proofs.Token.Signed

/-!
# Names of organizations

The name of an organization has letters and digits of ASCII, low lines and hyphens, and nothing
else. Builders refuse every other text, but for one: a name with a line feed behind it is taken for
the name, and the line feed goes into the token.

## Main definitions

* `Text.IsOrganizationName`: a name of an organization.
* `Text.IsOrganizationLine`: such a name with a line feed behind it.
* `BuildRequest.Acceptable`: all arguments but the organization are acceptable.

## Main results

* `isOrganization_iff`: the texts that are accepted.
* `BuildRequest.built_iff_isOrganization`: what builders accept and what tokens carry.
-/

namespace FleetToken

/-- The code points that the name of an organization may have. -/
def organizationAlphabet : Text :=
  Text.ofString "ABCDEFGHIJKLMNOPQRSTUVWXYZabcdefghijklmnopqrstuvwxyz0123456789_-"

/-- The test of a character is the alphabet of organizations. -/
theorem isOrganizationCodePoint_iff {c : CodePoint} :
    isOrganizationCodePoint c = true ↔ c ∈ organizationAlphabet := by
  refine CodePoint.iff_mem_alphabet (p := fun c => isOrganizationCodePoint c = true)
    (by decide +kernel) (fun c hname => ?_) (by decide)
  simp only [isOrganizationCodePoint, CodePoint.isAsciiDigit, Bool.or_eq_true, Bool.and_eq_true,
    decide_eq_true_eq, beq_iff_eq] at hname
  rcases hname with (((hcapital | hsmall) | hdigit) | rfl) | rfl
  · omega
  · omega
  · omega
  · decide
  · decide

namespace Text

/-- The name of an organization: at least one code point, and all of them in the alphabet. -/
def IsOrganizationName (t : Text) : Prop :=
  t ≠ [] ∧ ∀ c ∈ t, c ∈ organizationAlphabet

/-- The name of an organization with a line feed behind it. -/
def IsOrganizationLine (t : Text) : Prop :=
  ∃ name : Text, name.IsOrganizationName ∧ t = name ++ [CodePoint.ofChar '\n']

end Text

/-- The test of a text lets names pass, and names that end their line. -/
theorem isOrganization_iff {t : Text} :
    isOrganization t = true ↔ t.IsOrganizationName ∨ t.IsOrganizationLine := by
  have hname {name : Text} : (name != [] && name.all isOrganizationCodePoint) = true
      ↔ name.IsOrganizationName := by
    simp [Text.IsOrganizationName, isOrganizationCodePoint_iff]
  -- The line feed is no part of a name, so that it can be taken off in one way only.
  have hfeed : CodePoint.ofChar '\n' ∉ organizationAlphabet := by decide
  rw [isOrganization]
  split
  · rename_i hlast
    obtain ⟨name, rfl⟩ := List.getLast?_eq_some_iff.mp hlast
    rw [List.dropLast_concat, hname]
    constructor
    · exact fun h => .inr ⟨name, h, rfl⟩
    · rintro (⟨-, hall⟩ | ⟨other, hother, hconcat⟩)
      · exact absurd (hall _ (by simp)) hfeed
      · rwa [(List.append_inj' hconcat rfl).1]
  · rename_i hlast
    rw [hname]
    refine ⟨.inl, ?_⟩
    rintro (h | ⟨name, -, rfl⟩)
    · exact h
    · exact absurd List.getLast?_concat hlast

namespace BuildRequest

/-- All arguments of a call but the organization are acceptable: those that only its kind has, and
those that the envelope is built from. -/
def Acceptable (s : Surroundings) (r : BuildRequest) : Prop :=
  r.IsComplete ∧ ∃ envelope, r.envelope s = .ok envelope

variable {s : Surroundings} {r : BuildRequest} {t : Text}

/-- The organization is a field of the claims. -/
theorem organization_mem_fields (ht : r.organization? = some t) (envelope : StandardClaims) :
    ⟨.organization, some (.text t)⟩ ∈ (r.claims envelope).fields := by
  cases r with
  | standard => contradiction
  | provisioning r =>
    obtain rfl := Option.some.inj ht
    simp [claims, Claims.fields, ProvisioningClaims.ownFields]
  | client r =>
    obtain rfl := Option.some.inj ht
    simp [claims, Claims.fields, ClientClaims.ownFields]
  | server r =>
    obtain rfl := Option.some.inj ht
    simp [claims, Claims.fields, ServerClaims.ownFields]

/-- The payload of built claims states the organization as it was given. -/
theorem get?_organization_of_build {c : Claims} {zone : LocalZone} {payload : Members}
    (ht : r.organization? = some t) (h : r.build s = .ok c)
    (hpayload : c.payload zone = .ok payload) :
    payload.get? (Text.ofString "ou") = some (.string t) := by
  obtain ⟨-, -, envelope, -, rfl⟩ := build_eq_ok_iff.mp h
  exact Claims.get?_of_payload hpayload (organization_mem_fields ht envelope)

/-- A call for the claims of a kind succeeds if and only if its other arguments are acceptable and
the organization is a name, or a name with a line feed behind it. Every other organization is
refused for the claims. Every token with built claims carries the organization as it was given. -/
theorem built_iff_isOrganization (s : Surroundings) (r : BuildRequest) (t : Text)
    (ht : r.organization? = some t) :
    ((∃ c, r.build s = .ok c)
      ↔ r.Acceptable s ∧ (t.IsOrganizationName ∨ t.IsOrganizationLine))
    ∧ (r.Acceptable s → ¬(t.IsOrganizationName ∨ t.IsOrganizationLine) →
      ∃ fault, r.build s = .error (.token (.invalidClaims fault)))
    ∧ ∀ c key zone token, r.build s = .ok c → c.sign key zone = .ok token →
      ∃ payload, token.Carries payload
        ∧ payload.get? (Text.ofString "ou") = some (.string t) := by
  -- The builder and the claim differ only in how they say what a name is.
  rw [← isOrganization_iff]
  refine ⟨?_, fun hacceptable hrefused => ?_, fun c key zone token hbuild hsign => ?_⟩
  · simp only [build_eq_ok_iff, ht, Option.some.injEq, forall_eq']
    constructor
    · rintro ⟨c, hcomplete, haccepted, envelope, henvelope, -⟩
      exact ⟨⟨hcomplete, envelope, henvelope⟩, haccepted⟩
    · rintro ⟨⟨hcomplete, envelope, henvelope⟩, haccepted⟩
      exact ⟨_, hcomplete, haccepted, envelope, henvelope, rfl⟩
  · obtain ⟨hcomplete, envelope, henvelope⟩ := hacceptable
    rw [build_eq_of_envelope hcomplete henvelope ht]
    cases hname : checkOrganization t with
    | ok name => exact absurd (checkOrganization_eq_ok_iff.mp hname).2 hrefused
    | error failure =>
      obtain ⟨fault, rfl⟩ := invalidClaims_of_checkOrganization hname
      exact ⟨fault, rfl⟩
  · obtain ⟨pair, privateKey, payload, -, -, -, hpayload, htoken⟩ :=
      Claims.sign_eq_ok_iff.mp hsign
    exact ⟨payload, PrivateKey.carries_of_token htoken,
      get?_organization_of_build ht hbuild hpayload⟩

/-- A call for provisioning claims of an organization. -/
def provisioningSample (organization : Text) : BuildRequest :=
  .provisioning { ProvisioningRequest.sample with organization }

/-- The call succeeds for a name, and is refused for a name with a blank in it. -/
theorem built_provisioningSample :
    (∃ c, (provisioningSample (Text.ofString "fleet-1")).build ⟨.mk 0, [], []⟩ = .ok c)
      ∧ ∃ fault, (provisioningSample (Text.ofString "fleet 1")).build ⟨.mk 0, [], []⟩
        = .error (.token (.invalidClaims fault)) := by
  have hdomain : Text.ofString "example.net" ≠ [] := by decide
  have hacceptable (t : Text) : (provisioningSample t).Acceptable ⟨.mk 0, [], []⟩ :=
    ⟨.inr hdomain, _, rfl⟩
  obtain ⟨hbuilt, -⟩ := built_iff_isOrganization ⟨.mk 0, [], []⟩
    (provisioningSample (Text.ofString "fleet-1")) _ rfl
  obtain ⟨-, hrefused, -⟩ := built_iff_isOrganization ⟨.mk 0, [], []⟩
    (provisioningSample (Text.ofString "fleet 1")) _ rfl
  refine ⟨hbuilt.mpr ⟨hacceptable _, isOrganization_iff.mp (by decide)⟩,
    hrefused (hacceptable _) (mt isOrganization_iff.mpr (by decide))⟩

/-- Not all claims are built for a name: a line feed behind it is let through. -/
theorem not_isOrganizationName_of_build :
    (∃ c, (provisioningSample (Text.ofString "fleet\n")).build ⟨.mk 0, [], []⟩ = .ok c)
      ∧ ¬(Text.ofString "fleet\n").IsOrganizationName := by
  refine ⟨⟨_, rfl⟩, fun h => ?_⟩
  exact absurd (h.2 (CodePoint.ofChar '\n') (by decide)) (by decide)

end BuildRequest

end FleetToken
