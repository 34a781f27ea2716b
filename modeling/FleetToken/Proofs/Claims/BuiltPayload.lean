import FleetToken.Proofs.Claims.BuildingContainment
import FleetToken.Proofs.Claims.Embedding

/-!
# Payloads of built claims

Every argument of a builder that is not empty reaches the payload under its own name, beside what
the clock, the settings and a fresh identifier add. Nothing else does. Two things change on the way.
The end of the claims is written as a whole second. And in the keys of user properties surrogates
are replaced, so that entries whose keys became equal are joined.

## Main definitions

* `BuildRequest.envelopeTable`, `BuildRequest.ownTable`: what a call puts into a payload.
* `BuildRequest.endMicros`: the end that a call asks for.
* `BuildRequest.envelopeTo`: the envelope that a call asks for.

## Main results

* `BuildRequest.exists_envelopeTo_of_build`: built claims have that envelope.
* `BuildRequest.ofFields_claims`: what is written for built claims are the tables of the call.
* `BuildRequest.payload_of_build`: the payload of built claims.
-/

namespace FleetToken

/-! ## Tables -/

/-- A value, unless the argument that it is made of is empty. -/
def unlessEmpty {α : Type} (argument : List α) (value : Json) : Option Json :=
  if argument.isEmpty then none else some value

/-- A text that is written only if it has characters is an optional entry of the table. -/
theorem map_nonEmpty? (f : Text → Json) (t : Text) : t.nonEmpty?.map f = unlessEmpty t (f t) := by
  cases t <;> rfl

/-- So is a list that is written only if it has items. -/
theorem map_listNonEmpty? {α : Type} (f : List α → Json) (items : List α) :
    (listNonEmpty? items).map f = unlessEmpty items (f items) := by
  cases items <;> rfl

namespace BuildRequest

/-! ## What a call asks for -/

/-- Who is to be the issuer; none if empty. -/
def issuer : BuildRequest → Text
  | .standard issuer .. => issuer
  | .provisioning r => r.issuer
  | .client r => r.issuer
  | .server r => r.issuer

/-- Whom the claims are to be about. -/
def subject? : BuildRequest → Option Text
  | .standard _ purpose _ subjectIsPurpose => if subjectIsPurpose then some purpose.text else none
  | .provisioning _ => some Purpose.provisioning.text
  | .client r => some r.callerId
  | .server r => some r.identity

/-- The user properties that the claims are to have, as members. -/
def properties : BuildRequest → Members
  | .client r => r.properties.map fun entry => (entry.1, .string entry.2)
  | _ => []

/-- The end of the claims, in microseconds: the last whole second that the clock has shown, and the
span behind it. -/
def endMicros (settings : Settings) (clock : Clock) (r : BuildRequest) : Int :=
  clock.micros / 1000000 * 1000000 + r.spanMicros settings

/-- The part of the payload that all kinds have. -/
def envelopeTable (s : Surroundings) (settings : Settings) (expiry : Int) (r : BuildRequest) :
    List (String × Option Json) :=
  [("purpose", some (.string r.purpose.text)),
    ("iss", some (.string (if r.issuer = [] then settings.defaultIssuer else r.issuer))),
    ("sub", r.subject?.map .string),
    ("iat", some (.int (s.clock.micros / 1000000))),
    ("nbf", some (.int (s.clock.micros / 1000000))),
    ("exp", some (.int expiry)),
    ("jti", some (.string s.freshId))]

/-- The flags of permissions as they are written. -/
def flagsJson (named : List (String × Bool)) : Json :=
  .object (named.map fun flag => (Text.ofString flag.1, .bool flag.2))

/-- The part of the payload that a kind adds, with the text of an embedded key. -/
def ownTable (key : Text) : BuildRequest → List (String × Option Json)
  | .standard .. => []
  | .provisioning r =>
    [("chs", some (.bool r.secure)),
      ("chu", unlessEmpty r.urls (.string (Text.join (CodePoint.ofChar ',') r.urls))),
      ("cht", some (.string r.token)),
      ("chsrv", unlessEmpty r.srvDomain (.string r.srvDomain)),
      ("chpd", some (.bool r.byDefault)),
      ("chrd", unlessEmpty r.registrationDataFile (.string r.registrationDataFile)),
      ("chf", unlessEmpty r.factsDataFile (.string r.factsDataFile)),
      ("pnu", unlessEmpty r.user (.string r.user)),
      ("pnp", unlessEmpty r.password (.string r.password)),
      ("ou", some (.string r.organization))]
  | .client r =>
    [("public_key", some (.string key)),
      ("callerid", some (.string r.callerId)),
      ("agents", unlessEmpty r.allowedAgents (.array (r.allowedAgents.map .string))),
      ("opa_policy", unlessEmpty r.opaPolicy (.string r.opaPolicy)),
      ("permissions", r.permissions.map fun p => flagsJson p.flags),
      ("user_properties", unlessEmpty r.properties
        (.object (BuildRequest.client r).properties.replaceKeys)),
      ("ou", some (.string r.organization))]
  | .server r =>
    [("public_key", some (.string key)),
      ("identity", some (.string r.identity)),
      ("collectives", some (.array (r.collectives.map .string))),
      ("permissions", r.permissions.map fun p => flagsJson p.flags),
      ("pub_subjects", unlessEmpty r.additionalPublish (.array (r.additionalPublish.map .string))),
      ("ou", some (.string r.organization))]

/-- The envelope that the claims are to have. -/
def envelopeTo (s : Surroundings) (settings : Settings) (expiresAt : Timestamp)
    (r : BuildRequest) : StandardClaims where
  purpose := r.purpose
  issuer := r.issuer.nonEmpty?.getD settings.defaultIssuer
  subject := r.subject?
  issuedAt := some s.clock.wholeSecond
  notBefore := some s.clock.wholeSecond
  expiresAt := some expiresAt
  tokenId := some s.freshId

variable {s : Surroundings} {r : BuildRequest} {c : Claims}

/-- Built claims have the envelope that is asked for. -/
theorem exists_envelopeTo_of_build (h : r.build s = .ok c) :
    ∃ settings span expiresAt, s.settings = .ok settings
      ∧ settings.validity r.validity = .ok span
      ∧ s.clock.wholeSecond.add? span = some expiresAt
      ∧ c = r.claims (r.envelopeTo s settings expiresAt) := by
  obtain ⟨-, -, envelope, henvelope, rfl⟩ := build_eq_ok_iff.mp h
  cases r with
  | standard | provisioning | client | server =>
    obtain ⟨settings, span, expiresAt, hsettings, -, hspan, hadd, rfl⟩ :=
      StandardClaims.build_eq_ok_iff.mp henvelope
    exact ⟨settings, span, expiresAt, hsettings, hspan, hadd, rfl⟩

section Tables

variable {settings : Settings} {expiresAt : Timestamp} {expiry : Int}
  (hnow : s.clock.wholeSecond.wireSeconds? = some (s.clock.micros / 1000000))
  (hexpiry : expiresAt.wireSeconds? = some expiry)
include hnow hexpiry

/-- The envelope that a request is built with states its table. -/
theorem ofFields_envelopeTo (r : BuildRequest) :
    Members.ofFields (r.envelopeTo s settings expiresAt).fields
      = Members.present (r.envelopeTable s settings expiry) := by
  have hissuer : r.issuer.nonEmpty?.getD settings.defaultIssuer
      = if r.issuer = [] then settings.defaultIssuer else r.issuer := by
    cases r.issuer <;> rfl
  rw [Members.ofFields_eq_present]
  simp only [envelopeTo, StandardClaims.fields, List.map_cons, List.map_nil, Option.map_some,
    Option.map_map, FieldValue.json, hnow, hexpiry, hissuer]
  rfl

/-- What is written for built claims are the tables of the call. -/
theorem ofFields_claims {key : Text}
    (hkey : ∀ argument, r.publicKey? = some argument → embeddedPublicKey argument = .ok key) :
    Members.ofFields (r.claims (r.envelopeTo s settings expiresAt)).replaceKeys.fields
      = Members.present (r.envelopeTable s settings expiry ++ r.ownTable key) := by
  rw [Members.present_append, ← ofFields_envelopeTo hnow hexpiry]
  -- The envelope is done, so that the fields of each kind are compared with its own table.
  cases r with
  | standard => exact (List.append_nil _).symm
  | provisioning r =>
    simp only [claims, Claims.replaceKeys, Claims.fields, Members.ofFields_append]
    refine congrArg _ ?_
    rw [Members.ofFields_eq_present]
    simp only [ProvisioningClaims.ownFields, List.map_cons, List.map_nil, Option.map_some,
      Option.map_map, map_nonEmpty?, map_listNonEmpty?]
    rfl
  | client r =>
    simp only [claims, Claims.replaceKeys, Claims.fields, Members.ofFields_append]
    refine congrArg _ ?_
    rw [Members.ofFields_eq_present]
    simp only [ClientClaims.ownFields, List.map_cons, List.map_nil, Option.map_some,
      Option.map_map, map_nonEmpty?, map_listNonEmpty?, Function.comp_apply, FieldValue.json,
      map_string_replacePropertyKeys, hkey _ rfl]
    rfl
  | server r =>
    simp only [claims, Claims.replaceKeys, Claims.fields, Members.ofFields_append]
    refine congrArg _ ?_
    rw [Members.ofFields_eq_present]
    simp only [ServerClaims.ownFields, List.map_cons, List.map_nil, Option.map_some,
      Option.map_map, map_listNonEmpty?, hkey _ rfl]
    rfl

end Tables

/-- No call asks for a trust chain, a protocol version, updates or extensions. -/
theorem notMem_map_fst_tables (settings : Settings) (key : Text) (expiry : Int) :
    ∀ name ∈ ["tcs", "v2", "upd", "extensions"],
      name ∉ (r.envelopeTable s settings expiry ++ r.ownTable key).map Prod.fst := by
  cases r with
  | standard | provisioning | client | server =>
    rw [envelopeTable, ownTable]
    simp only [List.map_append, List.map_cons, List.map_nil]
    decide

/-- If a complete call has a key to embed, this has a text. -/
theorem exists_embeddedPublicKey (h : r.IsComplete) :
    ∃ key, ∀ argument, r.publicKey? = some argument → embeddedPublicKey argument = .ok key := by
  cases r with
  | standard | provisioning => exact ⟨[], by simp [publicKey?]⟩
  | client r =>
    obtain ⟨-, key, hkey⟩ := h
    exact ⟨key, fun argument hargument => Option.some.inj hargument ▸ hkey⟩
  | server r =>
    obtain ⟨-, -, -, key, hkey⟩ := h
    exact ⟨key, fun argument hargument => Option.some.inj hargument ▸ hkey⟩

/-- The text of an embedded key is the encoded public half of the argument. -/
theorem encodePublic_of_embeddedPublicKey {argument : KeyArgument} {key : Text}
    (h : embeddedPublicKey argument = .ok key) : argument.encodePublic = .ok key := by
  rw [embeddedPublicKey.eq_def] at h
  split at h
  · contradiction
  split at h
  · rename_i hencoded
    rw [hencoded, Except.ok.inj h]
  · contradiction

/-- The dates of built claims are written as the second that the clock has shown, and as the second
that the end is cut to. -/
theorem wireSeconds?_envelopeTo {settings : Settings} {span : Duration} {expiresAt : Timestamp}
    (hspan : settings.validity r.validity = .ok span)
    (hadd : s.clock.wholeSecond.add? span = some expiresAt) :
    s.clock.wholeSecond.wireSeconds? = some (s.clock.micros / 1000000)
      ∧ expiresAt.wireSeconds?
        = some (Timestamp.truncatedSeconds (r.endMicros settings s.clock))
      ∧ (r.endMicros settings s.clock).natAbs < 2 ^ 38 * 1000000 := by
  have hnow : s.clock.wholeSecond.utcMicros? .utc = some (s.clock.micros / 1000000 * 1000000) :=
    Timestamp.utcMicros?_of_instant? (Timestamp.instant?_of_clock_eq rfl) .utc
  have hend : expiresAt.utcMicros? .utc = some (r.endMicros settings s.clock) := by
    have hwall : expiresAt.wall = r.endMicros settings s.clock := by
      rw [Timestamp.wall_of_add? hadd, endMicros, spanMicros_of_validity hspan]
      rfl
    rw [← hwall]
    exact Timestamp.utcMicros?_of_instant?
      (Timestamp.instant?_of_clock_eq (Timestamp.clock_of_add? hadd)) .utc
  have hnowLow := Timestamp.natAbs_utcMicros_lt hnow
  refine ⟨?_, ?_, Timestamp.natAbs_utcMicros_lt hend⟩
  · have hexact := (Timestamp.truncatedSeconds_eq_tdiv_iff hnowLow).mpr
      (not_isCarried_of_dvd (Int.dvd_mul_left _ _) hnowLow)
    rw [Timestamp.wireSeconds?, hnow, Option.map_some, hexact, Int.mul_tdiv_cancel _ (by decide)]
  · rw [Timestamp.wireSeconds?, hend, Option.map_some]

/-- The payload of built claims has the entries that the call asks for, and no others. The end is
written as what is left of it without its fraction of a second, unless it is carried, and ends from
1426 to 2500 are not. The user properties are those of the call if and only if their keys are
different and hold no surrogates. -/
theorem payload_of_build (s : Surroundings) (r : BuildRequest) (c : Claims)
    (h : r.build s = .ok c) :
    ∃ settings key expiry payload, s.settings = .ok settings
      ∧ (∀ argument, r.publicKey? = some argument → argument.encodePublic = .ok key)
      ∧ (∀ zone, c.payload zone = .ok payload)
      ∧ payload = Members.present (r.envelopeTable s settings expiry ++ r.ownTable key)
      ∧ (expiry = (r.endMicros settings s.clock).tdiv 1000000
        ↔ ¬IsCarried (r.endMicros settings s.clock))
      ∧ (-(2 ^ 34 * 1000000) < r.endMicros settings s.clock →
        r.endMicros settings s.clock < CivilDate.dayNumber ⟨2500, 1, 1⟩ * microsPerDay →
        ¬IsCarried (r.endMicros settings s.clock))
      ∧ (r.properties.replaceKeys = r.properties ↔ Text.AreKeys r.properties.keys)
      ∧ ∀ name ∈ ["tcs", "v2", "upd", "extensions"],
        payload.get? (Text.ofString name) = none := by
  obtain ⟨settings, span, expiresAt, hsettings, hspan, hadd, rfl⟩ := exists_envelopeTo_of_build h
  obtain ⟨hcomplete, -, envelope, henvelope, hclaims⟩ := build_eq_ok_iff.mp h
  have hdates := hasInstants_claims henvelope
  rw [hclaims] at hdates
  obtain ⟨key, hkey⟩ := exists_embeddedPublicKey hcomplete
  obtain ⟨hnow, hexpiry, hmicros⟩ := wireSeconds?_envelopeTo hspan hadd
  -- No builder gives extensions, so that nothing can lack a written form.
  have hextensions : (r.claims (r.envelopeTo s settings expiresAt)).extensions? = none := by
    cases r <;> rfl
  have hfloats : (r.claims (r.envelopeTo s settings expiresAt)).FloatFree := by
    intro extensions hsome
    rw [hextensions] at hsome
    contradiction
  obtain ⟨payload, hpayload⟩ := Claims.exists_payload hdates hextensions
  have htables := (Claims.eq_ofFields_of_payload hfloats (hpayload .utc)).trans
    (ofFields_claims hnow hexpiry hkey)
  refine ⟨settings, key, _, payload, hsettings,
    fun argument hargument => encodePublic_of_embeddedPublicKey (hkey argument hargument), hpayload,
    htables, Timestamp.truncatedSeconds_eq_tdiv_iff hmicros, fun hlow hhigh => ?_,
    Members.replaceKeys_eq_self_iff, fun name hname => ?_⟩
  · -- The year 2500 lies below the seconds at which microseconds begin to be carried.
    have hday : CivilDate.dayNumber ⟨2500, 1, 1⟩ * microsPerDay < 2 ^ 34 * 1000000 := by decide
    exact not_isCarried_of_lt (by omega)
  · rw [htables]
    exact Members.get?_present_eq_none (notMem_map_fst_tables settings key _ name hname)

/-- The payload of a call for provisioning with no more than a domain, half a second past the first
second of 1970. -/
theorem payload_provisioningSample :
    ∃ c, (provisioning .sample).build (sampleSurroundings []) = .ok c
      ∧ c.payload = .ok [
        (Text.ofString "purpose", .string Purpose.provisioning.text),
        (Text.ofString "iss", .string (Text.ofString "Choria")),
        (Text.ofString "sub", .string Purpose.provisioning.text), (Text.ofString "iat", .int 1),
        (Text.ofString "nbf", .int 1), (Text.ofString "exp", .int 3601),
        (Text.ofString "jti", .string []), (Text.ofString "chs", .bool true),
        (Text.ofString "cht", .string []),
        (Text.ofString "chsrv", .string (Text.ofString "example.net")),
        (Text.ofString "chpd", .bool false),
        (Text.ofString "ou", .string (Text.ofString "fleet"))] := by
  obtain ⟨c, hbuild⟩ : ∃ c, (provisioning .sample).build (sampleSurroundings []) = .ok c := ⟨_, rfl⟩
  obtain ⟨settings, key, expiry, payload, hsettings, -, hpayload, htables, hexact, hnear, -⟩ :=
    payload_of_build (sampleSurroundings []) _ c hbuild
  obtain rfl : ({} : Settings) = settings := Except.ok.inj hsettings
  obtain rfl : expiry = 3601 := hexact.mpr (hnear (by decide) (by decide))
  exact ⟨c, hbuild, (hpayload .utc).trans (congrArg Except.ok (htables.trans rfl))⟩

/-- What is asked for in a client token with one property, whose key is half of a surrogate pair. -/
def surrogateRequest : BuildRequest :=
  .client {
    callerId := Text.ofString "caller"
    allowedAgents := []
    organization := Text.ofString "fleet"
    properties := [([.ofNat 0xD800], [])]
    opaPolicy := []
    issuer := []
    validity := none
    permissions := none
    publicKey := .bare (.publicHalf
      (.ed25519 ⟨PublicKey.onesSeed.bytes, PublicKey.onesSeed.length_eq⟩)) }

/-- What is asked for in a provisioning token that is valid for a microsecond. -/
def briefRequest : BuildRequest :=
  .provisioning { ProvisioningRequest.sample with validity := some ⟨1⟩ }

/-- Surroundings in which the clock shows the first second of the year 1000. -/
def earlySurroundings : Surroundings :=
  ⟨.mk (-30610224000000000), [], []⟩

/-- Not all arguments reach the payload exactly: a surrogate in the key of a property is lost, and a
microsecond past the first second of the year 1000 is not cut toward 1970. -/
theorem not_exact_payload :
    (∃ c payload, surrogateRequest.build (sampleSurroundings []) = .ok c
      ∧ c.payload = .ok payload
      ∧ payload.get? (Text.ofString "user_properties")
        = some (.object [(List.replicate 3 .replacement, .string [])])
      ∧ surrogateRequest.properties ≠ [(List.replicate 3 .replacement, .string [])])
    ∧ ∃ c payload, briefRequest.build earlySurroundings = .ok c ∧ c.payload = .ok payload
      ∧ payload.get? (Text.ofString "exp") = some (.int (-30610224000))
      ∧ (briefRequest.endMicros {} earlySurroundings.clock).tdiv 1000000 = -30610223999 := by
  refine ⟨⟨_, _, rfl, rfl, rfl, fun hsame => ?_⟩, _, _, rfl, rfl, rfl, by decide⟩
  exact absurd (congrArg Members.keys hsame) (by decide)

end BuildRequest

end FleetToken
