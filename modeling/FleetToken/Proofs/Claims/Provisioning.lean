import FleetToken.Proofs.Claims.BrokerUrls
import FleetToken.Proofs.Claims.Decodable
import FleetToken.Proofs.Claims.Issuance

/-!
# Where to provision

Provisioning claims are built for some URLs or for a domain whose service records name the brokers.
Consumers read the URLs from one text with commas in it. A URL of commas and blanks leaves nothing
to read there, but it is counted when the claims are built. So claims say where to provision if a
domain is given or one of the URLs has something else in it, and they still say so after they have
been a payload.

## Main definitions

* `Text.NamesBroker`: a URL that leaves something to read.
* `ProvisioningClaims.StatesBroker`: claims that say where to provision.

## Main results

* `ProvisioningClaims.urlList_ne_nil_iff`: when URLs are read from the text.
* `BuildRequest.hasInstants_claims`: the dates of built claims are instants.
* `ProvisioningClaims.statesBroker_iff_of_build`: when built claims say where to provision.
-/

namespace FleetToken

/-! ## URLs -/

/-- A text with something in it besides commas and blanks. -/
def Text.NamesBroker (url : Text) : Prop :=
  ∃ c ∈ url, c ≠ CodePoint.ofChar ',' ∧ c.isBlank = false

/-- Joined URLs name a broker if and only if one of them does. -/
theorem Text.namesBroker_join_iff {urls : List Text} :
    (join (CodePoint.ofChar ',') urls).NamesBroker ↔ ∃ url ∈ urls, url.NamesBroker := by
  constructor
  · rintro ⟨c, hc, hcomma, hblank⟩
    obtain ⟨url, hurl, hc⟩ := (mem_join_iff hcomma).mp hc
    exact ⟨url, hurl, c, hc, hcomma, hblank⟩
  · rintro ⟨url, hurl, c, hc, hcomma, hblank⟩
    exact ⟨c, (mem_join_iff hcomma).mpr ⟨url, hurl, hc⟩, hcomma, hblank⟩

namespace ProvisioningClaims

/-- The claims say where to provision: by URLs, or by a domain. -/
def StatesBroker (c : ProvisioningClaims) : Prop :=
  c.urlList ≠ [] ∨ ∃ domain, c.srvDomain = some domain ∧ domain ≠ []

/-- URLs are read from a text with something in it besides commas and blanks. -/
theorem urlList_ne_nil_iff {c : ProvisioningClaims} :
    c.urlList ≠ [] ↔ (c.urls.getD []).NamesBroker := by
  have hpieces : c.urlList ≠ []
      ↔ ∃ piece ∈ Text.split (CodePoint.ofChar ',') (c.urls.getD []), Text.trim piece ≠ [] := by
    simp [urlList, List.filter_eq_nil_iff]
  rw [hpieces]
  constructor
  · rintro ⟨piece, hpiece, htrim⟩
    obtain ⟨a, ha, hblank⟩ := Text.trim_ne_nil_iff.mp htrim
    obtain ⟨hmem, hcomma⟩ := Text.mem_split_iff.mp ⟨piece, hpiece, ha⟩
    exact ⟨a, hmem, hcomma, hblank⟩
  · rintro ⟨a, ha, hcomma, hblank⟩
    obtain ⟨piece, hpiece, hmem⟩ := Text.mem_split_iff.mpr ⟨ha, hcomma⟩
    exact ⟨piece, hpiece, Text.trim_ne_nil_iff.mpr ⟨a, hmem, hblank⟩⟩

end ProvisioningClaims

/-- A text is stated and not empty if and only if it has characters. -/
theorem exists_nonEmpty?_iff {t : Text} :
    (∃ text, t.nonEmpty? = some text ∧ text ≠ []) ↔ t ≠ [] := by
  rw [Text.nonEmpty?]
  split
  · rename_i hempty
    simp [hempty]
  · rename_i hsome
    simp [hsome]

/-- A list of URLs names a broker in the claims if and only if one of the URLs does. -/
theorem namesBroker_listNonEmpty? {urls : List Text} :
    (((listNonEmpty? urls).map (Text.join (CodePoint.ofChar ','))).getD []).NamesBroker
      ↔ ∃ url ∈ urls, url.NamesBroker := by
  rw [ProvisioningClaims.getD_join_listNonEmpty?, Text.namesBroker_join_iff]

/-! ## Dates of built claims -/

namespace BuildRequest

/-- The dates of built claims are instants. -/
theorem hasInstants_claims {s : Surroundings} {r : BuildRequest} {envelope : StandardClaims}
    (h : r.envelope s = .ok envelope) : (r.claims envelope).HasInstants := by
  obtain ⟨settings, span, expiresAt, -, -, hadd, hissued, hvalid, hexpires⟩ :=
    exists_dates_of_envelope h
  obtain ⟨hissuedAt, hnotBefore, hexpiresAt⟩ := r.dates_claims envelope
  have hinstant : s.clock.wholeSecond.offset ≠ none := Option.some_ne_none _
  -- All three dates are on the clock of the builder, which shows UTC.
  intro claim t ht
  cases claim with
  | issuedAt =>
    obtain rfl : s.clock.wholeSecond = t :=
      Option.some.inj ((hissuedAt.trans hissued).symm.trans ht)
    exact hinstant
  | notBefore =>
    obtain rfl : s.clock.wholeSecond = t :=
      Option.some.inj ((hnotBefore.trans hvalid).symm.trans ht)
    exact hinstant
  | expiresAt =>
    obtain rfl : expiresAt = t :=
      Option.some.inj ((hexpiresAt.trans hexpires).symm.trans ht)
    rw [Timestamp.offset, Timestamp.clock_of_add? hadd]
    exact hinstant

end BuildRequest

/-! ## Built provisioning claims -/

namespace ProvisioningClaims

/-- Claims state a broker by their URLs or by a domain. -/
theorem statesBroker_iff {c : ProvisioningClaims} :
    c.StatesBroker ↔ (c.urls.getD []).NamesBroker
      ∨ ∃ domain, c.srvDomain = some domain ∧ domain ≠ [] := by
  rw [StatesBroker, urlList_ne_nil_iff]

/-- Built claims say where to provision if and only if a domain was given or one of the URLs has
something in it besides commas and blanks. They have a payload, and the claims that are decoded from
it have the same URLs and the same domain. -/
theorem statesBroker_iff_of_build (s : Surroundings) (r : ProvisioningRequest)
    (c : ProvisioningClaims) (h : build s r = .ok c) :
    (c.StatesBroker ↔ r.srvDomain ≠ [] ∨ ∃ url ∈ r.urls, url.NamesBroker)
    ∧ ∃ payload decoded, (∀ zone, (Claims.provisioning c).payload zone = .ok payload)
      ∧ Claims.decode (.object payload) = .ok (.provisioning decoded)
      ∧ decoded.urlList = c.urlList ∧ decoded.srvDomain = c.srvDomain
      ∧ (decoded.StatesBroker ↔ c.StatesBroker) := by
  have hbuild : (BuildRequest.provisioning r).build s = .ok (.provisioning c) :=
    map_eq_ok_iff.mpr ⟨c, h, rfl⟩
  obtain ⟨-, -, envelope, henvelope, hclaims⟩ := BuildRequest.build_eq_ok_iff.mp hbuild
  have hdates := BuildRequest.hasInstants_claims henvelope
  rw [hclaims] at hdates
  obtain rfl := Claims.provisioning.inj hclaims
  have hpurpose : envelope.purpose = .provisioning := by
    obtain ⟨settings, span, expiresAt, -, -, -, -, hbuilt⟩ :=
      StandardClaims.build_eq_ok_iff.mp henvelope
    rw [hbuilt]
  have hkind : ClaimsType.provisioning ≠ .standard := by decide
  -- Built claims have no extensions.
  have hfloats : ((BuildRequest.provisioning r).claims envelope).FloatFree := by
    simp [Claims.FloatFree, BuildRequest.claims, Claims.extensions?]
  obtain ⟨payload, hpayload⟩ := Claims.exists_payload hdates rfl
  obtain ⟨date?, hdecoded⟩ :=
    Claims.exists_decode_of_payload hdates hkind hpurpose hfloats (hpayload .utc)
  refine ⟨?_, payload, _, hpayload, hdecoded, rfl, rfl, Iff.rfl⟩
  rw [statesBroker_iff, namesBroker_listNonEmpty?, exists_nonEmpty?_iff, or_comm]

/-- A request for provisioning by URLs alone. -/
def urlsSample (urls : List Text) : ProvisioningRequest :=
  { ProvisioningRequest.sample with urls, srvDomain := [] }

/-- One URL behind a comma is enough. -/
theorem statesBroker_urlsSample :
    ∃ c, build ⟨.mk 0, [], []⟩ (urlsSample [Text.ofString ", nats://one"]) = .ok c ∧ c.StatesBroker
      ∧ ∃ payload decoded, Claims.decode (.object payload) = .ok (.provisioning decoded)
        ∧ decoded.StatesBroker := by
  obtain ⟨c, hbuild⟩ :
      ∃ c, build ⟨.mk 0, [], []⟩ (urlsSample [Text.ofString ", nats://one"]) = .ok c := ⟨_, rfl⟩
  have hnames : (Text.ofString ", nats://one").NamesBroker :=
    ⟨CodePoint.ofChar 'n', by decide, by decide, by decide⟩
  obtain ⟨hstates, payload, decoded, -, hdecoded, -, -, hsame⟩ :=
    statesBroker_iff_of_build ⟨.mk 0, [], []⟩ _ c hbuild
  have hbroker := hstates.mpr (.inr ⟨_, List.mem_singleton_self _, hnames⟩)
  exact ⟨c, hbuild, hbroker, payload, decoded, hdecoded, hsame.mpr hbroker⟩

/-- Not all built claims say where to provision: an empty URL is counted and then not read. -/
theorem not_statesBroker_emptyUrl :
    ∃ c, build ⟨.mk 0, [], []⟩ (urlsSample [[]]) = .ok c ∧ ¬c.StatesBroker := by
  refine ⟨_, rfl, ?_⟩
  rintro (hurls | ⟨domain, hdomain, -⟩)
  · exact hurls rfl
  · contradiction

end ProvisioningClaims

end FleetToken
