import FleetToken.Proofs.Claims.RoundTrip
import FleetToken.Proofs.Token.Signed

/-!
# Signed claims over their lifetime

Claims are signed and come back under the public half of the key: before they are issued or valid
the token is refused as not yet valid, once they have expired it is refused as expired, and in
between it gives back the payload and the claims. This holds of all claims whose values are carried
unchanged.

## Main definitions

* `Clock.Awaits`, `Clock.HasReached`: where a clock stands to a date.
* `Claims.ComesBack`: what a token says over time.

## Main results

* `exists_comesBack_of_portable`: portable claims are signed and come back over their lifetime.
* `not_comesBack`: claims that do not come back, or that come back a microsecond early.
-/

namespace FleetToken

/-! ## Dates on the clock -/

/-- The date lies ahead of a clock, if `reach n` is the first microsecond that counts as the time
of `n` seconds. -/
def Clock.Awaits (clock : Clock) (reach : Int → Int) (date : Option Timestamp) : Prop :=
  ∃ n h, date = some (.ofSeconds n h) ∧ clock.micros < reach n

/-- The date does not lie ahead of a clock any more. -/
def Clock.HasReached (clock : Clock) (reach : Int → Int) (date : Option Timestamp) : Prop :=
  ∃ n h, date = some (.ofSeconds n h) ∧ reach n ≤ clock.micros

/-- Dates of whole seconds are told apart by their seconds. -/
theorem Timestamp.ofSeconds_inj {m n : Int} {hm : inRange (m * microsPerSecond) = true}
    {hn : inRange (n * microsPerSecond) = true} : ofSeconds m hm = ofSeconds n hn ↔ m = n := by
  simp only [ofSeconds, utc, microsPerSecond, Timestamp.mk.injEq, and_true]
  omega

namespace Claims.Portable

variable {c : Claims} {clock : Clock} {claim : TimeClaim}

/-- The dates of portable claims are whole seconds. -/
theorem exists_seconds (h : c.Portable) {date : Timestamp}
    (hdate : c.envelope.time? claim = some date) :
    ∃ n h, 0 ≤ n ∧ n ≤ Timestamp.watershed ∧ date = .ofSeconds n h := by
  have hmem := mem_fields_time c claim
  rw [hdate] at hmem
  cases h.values _ hmem _ rfl with
  | date hlow hhigh => exact ⟨_, _, hlow, hhigh, rfl⟩

/-- A date that claims do not have is not in their payload. -/
theorem timeClaim_none (h : c.envelope.time? claim = none) :
    timeClaim (Members.ofFields c.fields) claim = .ok none := by
  have hget := Members.get?_ofFields c.apart_fields (mem_fields_time c claim)
  simp only [claim.wire_fieldName, h, Option.map_none] at hget
  rw [timeClaim, hget]

/-- A date that they have is read back as its seconds. -/
theorem timeClaim_some {n : Int} {hn : Timestamp.inRange (n * microsPerSecond) = true}
    (h : c.envelope.time? claim = some (.ofSeconds n hn)) (hlow : 0 ≤ n)
    (hhigh : n ≤ Timestamp.watershed) :
    timeClaim (Members.ofFields c.fields) claim = .ok (some n) := by
  have hget := Members.get?_ofFields c.apart_fields (mem_fields_time c claim)
  simp only [claim.wire_fieldName, h, Option.map_some, FieldValue.json, Option.getD_some,
    Timestamp.wireSeconds?_ofSeconds (Timestamp.natAbs_le_watershed hlow hhigh)] at hget
  rw [timeClaim, hget]
  rfl

/-- A text of the envelope stands in the payload as a text. -/
theorem checkText_eq_ok {name : FieldName} {t : Option Text}
    (hmem : ⟨name, t.map .text⟩ ∈ c.envelope.fields) (fault : InvalidTokenFault) :
    checkText (Members.ofFields c.fields) name.wire fault = .ok () := by
  have hget := Members.get?_ofFields c.apart_fields (mem_fields_of_mem_envelope hmem)
  rw [checkText, hget]
  cases t <;> rfl

/-! ## The time claims of a payload -/

variable (h : c.Portable)
include h

/-- A time that lies ahead is refused as not yet valid. -/
theorem checkReached_of_awaits (hawaits : clock.Awaits reachMicros (c.envelope.time? claim)) :
    checkReached (Members.ofFields c.fields) clock claim
      = .error (.invalidToken (.notYetValid claim)) := by
  obtain ⟨n, _, hdate, hbefore⟩ := hawaits
  obtain ⟨m, _, hlow, hhigh, hm⟩ := h.exists_seconds hdate
  obtain rfl := Timestamp.ofSeconds_inj.mp hm
  rw [checkReached, timeClaim_some hdate hlow hhigh]
  simp only [ok_bind, (Clock.isBefore_iff hlow hhigh).mpr hbefore]
  rfl

/-- A time that does not lie ahead passes. -/
theorem checkReached_of_not_awaits
    (hawaits : ¬clock.Awaits reachMicros (c.envelope.time? claim)) :
    checkReached (Members.ofFields c.fields) clock claim = .ok () := by
  cases hdate : c.envelope.time? claim with
  | none =>
    rw [checkReached, timeClaim_none hdate]
    rfl
  | some date =>
    obtain ⟨n, hn, hlow, hhigh, rfl⟩ := h.exists_seconds hdate
    have hbefore : clock.isBefore n = false := by
      rw [Bool.eq_false_iff, ne_eq, Clock.isBefore_iff hlow hhigh]
      exact fun hlt => hawaits ⟨n, hn, hdate, hlt⟩
    rw [checkReached, timeClaim_some hdate hlow hhigh]
    simp only [ok_bind, hbefore]
    rfl

/-- An end that is reached is refused as expired. -/
theorem checkUnexpired_of_hasReached
    (hreached : clock.HasReached reachMicros c.envelope.expiresAt) :
    checkUnexpired (Members.ofFields c.fields) clock = .error .tokenExpired := by
  obtain ⟨n, hn, hdate, hreach⟩ := hreached
  replace hdate : c.envelope.time? .expiresAt = some (.ofSeconds n hn) := hdate
  obtain ⟨m, _, hlow, hhigh, hm⟩ := h.exists_seconds hdate
  obtain rfl := Timestamp.ofSeconds_inj.mp hm
  have hbefore : clock.isBefore n = false := by
    rw [Bool.eq_false_iff, ne_eq, Clock.isBefore_iff hlow hhigh]
    exact Int.not_lt.mpr hreach
  rw [checkUnexpired, timeClaim_some hdate hlow hhigh]
  simp only [ok_bind, hbefore]
  rfl

/-- An end that is not reached passes. -/
theorem checkUnexpired_of_not_hasReached
    (hreached : ¬clock.HasReached reachMicros c.envelope.expiresAt) :
    checkUnexpired (Members.ofFields c.fields) clock = .ok () := by
  cases hdate : c.envelope.time? .expiresAt with
  | none =>
    rw [checkUnexpired, timeClaim_none hdate]
    rfl
  | some date =>
    obtain ⟨n, hn, hlow, hhigh, rfl⟩ := h.exists_seconds hdate
    have hbefore : clock.isBefore n = true := by
      rw [Clock.isBefore_iff hlow hhigh]
      exact Int.not_le.mp fun hle => hreached ⟨n, hn, hdate, hle⟩
    rw [checkUnexpired, timeClaim_some hdate hlow hhigh]
    simp only [ok_bind, hbefore]
    rfl

/-- Before the token is issued or valid its payload is refused. -/
theorem checkPayload_of_awaits (hawaits : clock.Awaits reachMicros c.envelope.issuedAt
    ∨ clock.Awaits reachMicros c.envelope.notBefore) :
    ∃ claim, checkPayload (Members.ofFields c.fields) clock
      = .error (.invalidToken (.notYetValid claim)) := by
  -- The time of issue is looked at first, and reported if both lie ahead.
  by_cases hissued : clock.Awaits reachMicros (c.envelope.time? .issuedAt)
  · refine ⟨.issuedAt, ?_⟩
    rw [checkPayload, h.checkReached_of_awaits hissued, error_bind]
  · have hvalid : clock.Awaits reachMicros (c.envelope.time? .notBefore) :=
      hawaits.resolve_left hissued
    refine ⟨.notBefore, ?_⟩
    rw [checkPayload, h.checkReached_of_not_awaits hissued, ok_bind,
      h.checkReached_of_awaits hvalid, error_bind]

/-- Once the claims are issued and valid, their end decides. -/
theorem checkPayload_eq_checkUnexpired (hissued : ¬clock.Awaits reachMicros c.envelope.issuedAt)
    (hvalid : ¬clock.Awaits reachMicros c.envelope.notBefore) :
    checkPayload (Members.ofFields c.fields) clock
      = checkUnexpired (Members.ofFields c.fields) clock := by
  have hsubject : checkText (Members.ofFields c.fields) "sub" .subjectNotText = .ok () :=
    checkText_eq_ok (show ⟨.subject, c.envelope.subject.map .text⟩ ∈ c.envelope.fields by
      simp [StandardClaims.fields]) _
  have htokenId : checkText (Members.ofFields c.fields) "jti" .tokenIdNotText = .ok () :=
    checkText_eq_ok (show ⟨.tokenId, c.envelope.tokenId.map .text⟩ ∈ c.envelope.fields by
      simp [StandardClaims.fields]) _
  replace hissued : ¬clock.Awaits reachMicros (c.envelope.time? .issuedAt) := hissued
  replace hvalid : ¬clock.Awaits reachMicros (c.envelope.time? .notBefore) := hvalid
  -- The times are reached and the texts are texts, so that only the end is left.
  rw [checkPayload, h.checkReached_of_not_awaits hissued, ok_bind,
    h.checkReached_of_not_awaits hvalid, ok_bind, hsubject, htokenId]
  cases checkUnexpired (Members.ofFields c.fields) clock <;> rfl

end Claims.Portable

/-! ## Claims over time -/

/-- Verification fails with an error, whatever claims are wanted. -/
structure Refused (token : TokenInput) (key : KeyArgument) (clock : Clock) (error : TokenError) :
    Prop where
  /-- No payload is given. -/
  verifiedPayload_eq : verifiedPayload token key clock = .error (.token error)
  /-- No claims of any kind are given. -/
  parseToken_eq : ∀ kind, parseToken token key clock kind = .error (.token error)
  /-- No claims are given when the payload decides on their kind. -/
  parseAnyToken_eq : parseAnyToken token key clock = .error (.token error)

/-- A token that is not verified is refused alike by all readers. -/
theorem refused_of_verifiedPayload {token : TokenInput} {key : KeyArgument} {clock : Clock}
    {error : TokenError} (h : verifiedPayload token key clock = .error (.token error)) :
    Refused token key clock error where
  verifiedPayload_eq := h
  parseToken_eq kind := by rw [parseToken, h, error_bind]
  parseAnyToken_eq := by rw [parseAnyToken, h, error_bind]

/-- A token with some claims says what it should under a key at every time that a clock can show,
if `reach n` is the first microsecond that counts as the time of `n` seconds. -/
structure Claims.ComesBack (c : Claims) (reach : Int → Int) (token : TokenInput)
    (key : KeyArgument) : Prop where
  /-- Before it is issued or valid it is refused as not yet valid. -/
  early : ∀ clock : Clock,
    clock.Awaits reach c.envelope.issuedAt ∨ clock.Awaits reach c.envelope.notBefore →
    ∃ claim, Refused token key clock (.invalidToken (.notYetValid claim))
  /-- Then, once it has expired, it is refused as expired. -/
  late : ∀ clock : Clock,
    ¬clock.Awaits reach c.envelope.issuedAt → ¬clock.Awaits reach c.envelope.notBefore →
    clock.HasReached reach c.envelope.expiresAt → Refused token key clock .tokenExpired
  /-- In between it gives back the payload. -/
  payload : ∀ clock : Clock,
    ¬clock.Awaits reach c.envelope.issuedAt → ¬clock.Awaits reach c.envelope.notBefore →
    ¬clock.HasReached reach c.envelope.expiresAt →
    ∃ payload, (∀ zone, c.payload zone = .ok payload)
      ∧ verifiedPayload token key clock = .ok payload
  /-- In between it gives back the claims. -/
  claims : ∀ clock : Clock,
    ¬clock.Awaits reach c.envelope.issuedAt → ¬clock.Awaits reach c.envelope.notBefore →
    ¬clock.HasReached reach c.envelope.expiresAt → parseToken token key clock c.type = .ok c
      ∧ (c.type ≠ .standard → parseAnyToken token key clock = .ok c)

/-- Claims are signed if they have a lifetime and a payload that can be written. The token is
authentic, with the payload that the written one is read as. -/
theorem Claims.exists_sign_of_payload {c : Claims} {pair : KeyPair} (hpair : pair.VerifiesItself)
    {zone : LocalZone} {payload found : Members} (hlifetime : c.envelope.checkLifetime = .ok ())
    (hpayload : c.payload zone = .ok payload) (hwritable : (Json.object payload).isWritable = true)
    (hread : Json.decode (Json.object payload).compact.toUtf8 = .ok (.object found)) :
    ∃ t, c.sign (.pair pair) zone = .ok t
      ∧ authenticatedPayload (.text t) pair.publicArgument = .ok found := by
  obtain ⟨privateKey, t, hprivate, htoken, hauthentic⟩ := hpair.exists_token hwritable hread
  exact ⟨t, sign_eq_ok_iff.mpr ⟨pair, privateKey, payload, rfl, hprivate, hlifetime, hpayload,
    htoken⟩, hauthentic _ _ rfl hpair.family_eq rfl⟩

namespace Claims.Portable

variable {c : Claims}

/-- Portable claims expire after they are issued. -/
theorem checkLifetime_eq_ok (h : c.Portable) : c.envelope.checkLifetime = .ok () := by
  rw [StandardClaims.checkLifetime.eq_def]
  split
  · rename_i expiresAt issuedAt hexpiresAt hissuedAt
    replace hexpiresAt : c.envelope.time? .expiresAt = some expiresAt := hexpiresAt
    replace hissuedAt : c.envelope.time? .issuedAt = some issuedAt := hissuedAt
    have hlt := h.lifetime issuedAt expiresAt hissuedAt hexpiresAt
    obtain ⟨expiry, hexpiry, -, -, rfl⟩ := h.exists_seconds hexpiresAt
    obtain ⟨issued, hissued, -, -, rfl⟩ := h.exists_seconds hissuedAt
    rw [Timestamp.le?_of_clock_eq rfl rfl, decide_eq_false (Int.not_le.mpr hlt)]
  · rfl

/-- Portable claims are signed, and the token is authentic. -/
theorem exists_sign {pair : KeyPair} (hpair : pair.VerifiesItself) (h : c.Portable)
    (zone : LocalZone) : ∃ t, c.sign (.pair pair) zone = .ok t
      ∧ authenticatedPayload (.text t) pair.publicArgument = .ok (Members.ofFields c.fields) :=
  exists_sign_of_payload hpair h.checkLifetime_eq_ok h.canonical.payload_eq h.lossless.isWritable
    (Json.decode_compact h.lossless)

/-- An authentic token with portable claims says what it should over time. -/
theorem comesBack (h : c.Portable) {token : TokenInput} {key : KeyArgument}
    (hauthentic : authenticatedPayload token key = .ok (Members.ofFields c.fields)) :
    c.ComesBack reachMicros token key := by
  -- The payload is authentic at every time, so only the look at the time is left.
  have hverified (clock : Clock) : verifiedPayload token key clock = (do
      (checkPayload (Members.ofFields c.fields) clock).mapError .token
      return Members.ofFields c.fields) := by
    rw [verifiedPayload_eq, hauthentic, ok_bind]
  -- While the claims are valid that passes, for the payload and for the claims alike.
  have hlive (clock : Clock) (hissued : ¬clock.Awaits reachMicros c.envelope.issuedAt)
      (hvalid : ¬clock.Awaits reachMicros c.envelope.notBefore)
      (hend : ¬clock.HasReached reachMicros c.envelope.expiresAt) :
      verifiedPayload token key clock = .ok (Members.ofFields c.fields) := by
    rw [hverified, h.checkPayload_eq_checkUnexpired hissued hvalid,
      h.checkUnexpired_of_not_hasReached hend]
    rfl
  constructor
  case early =>
    intro clock hawaits
    obtain ⟨claim, hrefused⟩ := h.checkPayload_of_awaits hawaits
    refine ⟨claim, refused_of_verifiedPayload ?_⟩
    rw [hverified, hrefused]
    rfl
  case late =>
    intro clock hissued hvalid hend
    refine refused_of_verifiedPayload ?_
    rw [hverified, h.checkPayload_eq_checkUnexpired hissued hvalid,
      h.checkUnexpired_of_hasReached hend]
    rfl
  case payload =>
    intro clock hissued hvalid hend
    exact ⟨_, fun _ => h.canonical.payload_eq, hlive clock hissued hvalid hend⟩
  case claims =>
    intro clock hissued hvalid hend
    refine ⟨?_, fun hkind => ?_⟩
    · rw [parseToken, hlive clock hissued hvalid hend, ok_bind,
        h.canonical.decodeAs_ofFields]
    · rw [parseAnyToken, hlive clock hissued hvalid hend, ok_bind,
        h.canonical.decode_ofFields hkind]

end Claims.Portable

/-- Portable claims are signed by every pair that verifies itself, at every place, and come back
under its public half over their whole lifetime. -/
theorem exists_comesBack_of_portable (pair : KeyPair) (hpair : pair.VerifiesItself) (c : Claims)
    (hc : c.Portable) (zone : LocalZone) : ∃ t, c.sign (.pair pair) zone = .ok t
      ∧ c.ComesBack reachMicros (.text t) pair.publicArgument := by
  obtain ⟨t, hsign, hauthentic⟩ := hc.exists_sign hpair zone
  exact ⟨t, hsign, hc.comesBack hauthentic⟩

/-- Claims of a server that come back. -/
def serverSample : Claims :=
  .server {
    purpose := .server
    issuedAt := some (.ofSeconds 1)
    expiresAt := some (.ofSeconds 3600)
    identity := Text.ofString "node"
    collectives := [Text.ofString "fleet"] }

theorem serverSample_portable : serverSample.Portable where
  purpose_eq _ := rfl
  lifetime issued expiry hissued hexpiry := by
    obtain rfl := Option.some.inj hissued
    obtain rfl := Option.some.inj hexpiry
    decide
  values := by
    simp only [serverSample, Claims.fields, StandardClaims.fields, ServerClaims.ownFields,
      List.forall_mem_append, List.forall_mem_cons, Option.map_some, Option.map_none,
      Option.some.injEq, forall_eq', reduceCtorEq, false_imp_iff, implies_true, true_and, and_true,
      List.not_mem_nil]
    exact ⟨⟨.purpose _, .text (Text.unpaired_ofString ""), .date (by decide) (by decide),
      .date (by decide) (by decide)⟩, .text (Text.unpaired_ofString ""),
      .text (Text.unpaired_ofString "node"),
      .texts (by simpa using Text.unpaired_ofString "fleet")⟩

/-- A server's claims that are signed, and come back while they are valid. -/
theorem exists_comesBack_serverSample : mersennePair.VerifiesItself ∧ serverSample.Portable
    ∧ ∃ t, serverSample.sign (.pair mersennePair) = .ok t
      ∧ serverSample.ComesBack reachMicros (.text t) mersennePair.publicArgument :=
  ⟨mersennePair_verifiesItself, serverSample_portable,
    exists_comesBack_of_portable mersennePair mersennePair_verifiesItself serverSample
      serverSample_portable .utc⟩

/-! ## Claims that do not come back as they were -/

/-- The last date that counts as whole seconds, as a time of issue. -/
def lateSample : Claims :=
  .standard { issuedAt := some (.ofSeconds 20000000000) }

theorem lateSample_portable : lateSample.Portable where
  purpose_eq hkind := absurd rfl hkind
  lifetime issued expiry _ hexpiry := by contradiction
  values := by
    have hempty : Text.Unpaired [] := Text.unpaired_ofString ""
    simp only [lateSample, Claims.fields, StandardClaims.fields, List.forall_mem_cons,
      Option.map_some, Option.map_none, Option.some.injEq, forall_eq', reduceCtorEq, false_imp_iff,
      implies_true, true_and, and_true, List.not_mem_nil]
    exact ⟨.purpose _, .text hempty, .date (by decide) (by decide)⟩

/-- One microsecond before such a time of issue the token is accepted already. -/
theorem lateSample_early {pair : KeyPair} (hpair : pair.VerifiesItself) :
    ∃ t, lateSample.sign (.pair pair) = .ok t
      ∧ ¬lateSample.ComesBack (· * microsPerSecond) (.text t) pair.publicArgument := by
  obtain ⟨t, hsign, hauthentic⟩ := lateSample_portable.exists_sign hpair .utc
  refine ⟨t, hsign, fun hexact => ?_⟩
  -- The last microsecond before the time of issue.
  let clock : Clock := .mk 19999999999999999
  have hissued : ¬clock.Awaits reachMicros (some (.ofSeconds 20000000000)) := by
    rintro ⟨n, h, hn, hlt⟩
    obtain rfl := Timestamp.ofSeconds_inj.mp (Option.some.inj hn)
    exact absurd hlt (by decide)
  have habsent : ¬clock.Awaits reachMicros none := by
    rintro ⟨n, h, hn, -⟩
    contradiction
  have hendless : ¬clock.HasReached reachMicros none := by
    rintro ⟨n, h, hn, -⟩
    contradiction
  obtain ⟨claim, hrefused⟩ := hexact.early clock (.inl ⟨20000000000, _, rfl, by decide⟩)
  obtain ⟨payload, -, hverified⟩ :=
    (lateSample_portable.comesBack hauthentic).payload clock hissued habsent hendless
  rw [hrefused.verifiedPayload_eq] at hverified
  contradiction

/-- Arrays nested to the limit of the serializer are not written. -/
theorem Json.wire_nested {levels depth : Nat} (h : levels ≤ depth) :
    (nested depth).wire levels = .error .tooDeep := by
  -- Each level that is entered uses one of those that are left.
  induction levels generalizing depth with
  | zero => rw [wire.eq_def, if_pos rfl]
  | succ levels ih =>
    cases depth with
    | zero => omega
    | succ depth =>
      have hitem : (nested depth).wire levels = .error .tooDeep := ih (Nat.le_of_succ_le_succ h)
      rw [nested, wire, if_neg (Nat.succ_ne_zero levels), Nat.add_sub_cancel, wireItems, hitem]
      rfl

/-- Claims with an extension on one level more than can be written. -/
def deepSample : Claims :=
  .provisioning { purpose := .provisioning, extensions := some [([], Json.nested maxLevels)] }

/-- Claims with such an extension are not signed. -/
theorem deepSample_unsigned {pair : KeyPair} (hpair : pair.VerifiesItself) :
    deepSample.sign (.pair pair) = .error (.token (.signingFailure (.couldNotSign .badValue))) := by
  obtain ⟨privateKey, hprivate, -⟩ := hpair
  have hextensions : (FieldValue.members [([], Json.nested maxLevels)]).wire = .error .tooDeep := by
    rw [FieldValue.wire, wireExtensions, List.mapM_cons]
    simp only [Json.wire_nested (Nat.le_refl maxLevels)]
    rfl
  have hpayload : deepSample.payload = .error .tooDeep := by
    simp only [Claims.payload, Claims.render, Claims.fields, deepSample, StandardClaims.fields,
      ProvisioningClaims.ownFields, Option.map_none, Option.map_some, Bool.not_true, Bool.false_or,
      Option.isSome_some, Option.isSome_none, List.cons_append, List.nil_append,
      List.filter_cons_of_pos, List.filter_cons_of_neg, Bool.false_eq_true, not_false_eq_true,
      List.filter_nil, List.mapM_cons, List.mapM_nil, Field.wire, hextensions]
    rfl
  have hargument : (KeyPair.ofArgument (.pair pair)).mapError Failure.token = .ok pair := rfl
  rw [Claims.sign, hargument, ok_bind]
  simp only [hprivate, hpayload]
  rfl

/-- Claims that are written like other claims do not come back. -/
theorem not_comesBack_of_written_alike {pair : KeyPair} (hpair : pair.VerifiesItself)
    {c other : Claims} (hother : other.Portable) (hne : other ≠ c) (htype : other.type = c.type)
    (htimes : ∀ claim, c.envelope.time? claim = none)
    (hotherTimes : ∀ claim, other.envelope.time? claim = none) (payload : Members)
    (hpayload : c.payload = .ok payload) (hwritable : (Json.object payload).isWritable = true)
    (halike : (Json.object payload).compact
      = (Json.object (Members.ofFields other.fields)).compact) :
    ∃ t, c.sign (.pair pair) = .ok t
      ∧ ∀ reach, ¬c.ComesBack reach (.text t) pair.publicArgument := by
  -- Claims without times are valid at every time.
  have hlifetime : c.envelope.checkLifetime = .ok () := by
    rw [StandardClaims.checkLifetime, show c.envelope.expiresAt = none from htimes .expiresAt]
  obtain ⟨t, hsign, hauthentic⟩ := Claims.exists_sign_of_payload hpair hlifetime hpayload hwritable
    (halike ▸ Json.decode_compact hother.lossless)
  refine ⟨t, hsign, fun reach hback => hne ?_⟩
  have hawaits {reach : Int → Int} {date : Option Timestamp} (hdate : date = none) :
      ¬(Clock.mk 0).Awaits reach date := by
    rintro ⟨n, h, hn, -⟩
    rw [hdate] at hn
    contradiction
  have hreached {reach : Int → Int} {date : Option Timestamp} (hdate : date = none) :
      ¬(Clock.mk 0).HasReached reach date := by
    rintro ⟨n, h, hn, -⟩
    rw [hdate] at hn
    contradiction
  -- One token cannot be read as both.
  have hparsed := (hback.claims (.mk 0) (hawaits (htimes .issuedAt))
    (hawaits (htimes .notBefore)) (hreached (htimes .expiresAt))).1
  have hotherParsed := ((hother.comesBack hauthentic).claims (.mk 0)
    (hawaits (hotherTimes .issuedAt)) (hawaits (hotherTimes .notBefore))
    (hreached (hotherTimes .expiresAt))).1
  rw [htype, hparsed] at hotherParsed
  exact (Except.ok.inj hotherParsed).symm

/-- Claims of a client with a property under a key. -/
def propertySample (key : Text) : Claims :=
  .client { purpose := .client, userProperties := some [(key, [])] }

theorem propertySample_portable {key : Text} (hkey : key.WellFormed) :
    (propertySample key).Portable where
  purpose_eq _ := rfl
  lifetime issued expiry hissued _ := by contradiction
  values := by
    have hempty : Text.Unpaired [] := Text.unpaired_ofString ""
    simp only [propertySample, Claims.fields, StandardClaims.fields, ClientClaims.ownFields,
      List.forall_mem_append, List.forall_mem_cons, Option.map_some, Option.map_none,
      Option.some.injEq, forall_eq', reduceCtorEq, false_imp_iff, implies_true, true_and, and_true,
      List.not_mem_nil]
    exact ⟨⟨.purpose _, .text hempty⟩, .text hempty, .text hempty,
      .properties ⟨by simp, by simpa using hkey⟩ (by simpa using hempty)⟩

/-- Half of a surrogate pair in a key comes back as replacement characters. -/
theorem propertySample_replaced {pair : KeyPair} (hpair : pair.VerifiesItself) :
    ∃ t, (propertySample [.ofNat 0xD800]).sign (.pair pair) = .ok t
      ∧ ∀ reach, ¬(propertySample [.ofNat 0xD800]).ComesBack reach (.text t)
        pair.publicArgument := by
  have hreplaced : (propertySample (List.replicate 3 .replacement)).Portable :=
    propertySample_portable (by decide)
  refine not_comesBack_of_written_alike hpair hreplaced (fun h => ?_) rfl (fun claim => ?_)
    (fun claim => ?_) (Members.ofFields (propertySample (List.replicate 3 .replacement)).fields)
    rfl rfl rfl
  · exact absurd (congrArg ClientClaims.userProperties (Claims.client.inj h)) (by decide)
  · cases claim <;> rfl
  · cases claim <;> rfl

/-- Claims about a subject. -/
def subjectSample (subject : Text) : Claims :=
  .standard { subject := some subject }

theorem subjectSample_portable {subject : Text} (hsubject : subject.Unpaired) :
    (subjectSample subject).Portable where
  purpose_eq hkind := absurd rfl hkind
  lifetime issued expiry hissued _ := by contradiction
  values := by
    have hempty : Text.Unpaired [] := Text.unpaired_ofString ""
    simp only [subjectSample, Claims.fields, StandardClaims.fields, List.forall_mem_cons,
      Option.map_some, Option.map_none, Option.some.injEq, forall_eq', reduceCtorEq, false_imp_iff,
      implies_true, and_true, List.not_mem_nil]
    exact ⟨.purpose _, .text hempty, .text hsubject⟩

/-- The two halves of a surrogate pair side by side come back as one code point. -/
theorem subjectSample_joined {pair : KeyPair} (hpair : pair.VerifiesItself) :
    ∃ t, (subjectSample [.ofNat 0xD83D, .ofNat 0xDE00]).sign (.pair pair) = .ok t
      ∧ ∀ reach, ¬(subjectSample [.ofNat 0xD83D, .ofNat 0xDE00]).ComesBack reach (.text t)
        pair.publicArgument := by
  have hjoined : (subjectSample [.ofNat 0x1F600]).Portable :=
    subjectSample_portable (Text.WellFormed.unpaired (by decide))
  refine not_comesBack_of_written_alike hpair hjoined (fun h => ?_) rfl (fun claim => ?_)
    (fun claim => ?_)
    (Members.ofFields (subjectSample [.ofNat 0xD83D, .ofNat 0xDE00]).fields) rfl rfl rfl
  · exact absurd (congrArg StandardClaims.subject (Claims.standard.inj h)) (by decide)
  · cases claim <;> rfl
  · cases claim <;> rfl

/-- Not all claims come back exactly. A pair that verifies itself does not sign an extension that is
nested too deeply; a key with half of a surrogate pair and a text with both halves side by side are
changed; and beyond `2 ^ 34` seconds a token is valid one microsecond before its time of issue. -/
theorem not_comesBack : mersennePair.VerifiesItself
    ∧ deepSample.sign (.pair mersennePair)
      = .error (.token (.signingFailure (.couldNotSign .badValue)))
    ∧ (∃ t, (propertySample [.ofNat 0xD800]).sign (.pair mersennePair) = .ok t
      ∧ ∀ reach, ¬(propertySample [.ofNat 0xD800]).ComesBack reach (.text t)
        mersennePair.publicArgument)
    ∧ (∃ t, (subjectSample [.ofNat 0xD83D, .ofNat 0xDE00]).sign (.pair mersennePair) = .ok t
      ∧ ∀ reach, ¬(subjectSample [.ofNat 0xD83D, .ofNat 0xDE00]).ComesBack reach (.text t)
        mersennePair.publicArgument)
    ∧ ∃ t, lateSample.sign (.pair mersennePair) = .ok t
      ∧ ¬lateSample.ComesBack (· * microsPerSecond) (.text t) mersennePair.publicArgument :=
  ⟨mersennePair_verifiesItself, deepSample_unsigned mersennePair_verifiesItself,
    propertySample_replaced mersennePair_verifiesItself,
    subjectSample_joined mersennePair_verifiesItself,
    lateSample_early mersennePair_verifiesItself⟩

end FleetToken
