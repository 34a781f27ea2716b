import FleetToken.Proofs.Claims.Payload
import FleetToken.Proofs.Time.Truncation
import FleetToken.Proofs.Token.RoundTrip

/-!
# Lifetimes on the wire

Claims are refused when they expire no later than they are issued. That check compares dates, and
the token carries whole seconds of UTC. So the written end of a signed token comes after the written
time of issue but for two things. Both dates may lie in one second. Or both are readings of one
clock that is set back between them: in their order on the clock the end is the later one, and in
UTC it is not.

## Main definitions

* `Members.Lifetime`: how the written time of issue and the written end are related.
* `Timestamp.SharesSecond`: two dates lie in one second.
* `Timestamp.TurnsBack`: a later reading of a clock is no later instant.

## Main results

* `Timestamp.turnsBack_iff_of_le?`: what the check says about instants.
* `Claims.lifetime_of_sign`: when the end of a signed token comes after its time of issue.
-/

namespace FleetToken

/-- The time of issue and the end that the members state, if they state both, are whole seconds
that stand in a relation. -/
def Members.Lifetime (rel : Int → Int → Prop) (payload : Members) : Prop :=
  ∀ issued expiry, payload.get? (Text.ofString "iat") = some issued →
    payload.get? (Text.ofString "exp") = some expiry →
    ∃ m n, issued = .int m ∧ expiry = .int n ∧ rel m n

/-! ## The check on dates -/

/-- Two dates lie in one second of UTC. -/
def Timestamp.SharesSecond (zone : LocalZone) (a b : Timestamp) : Prop :=
  ∃ x y, a.utcMicros? zone = some x ∧ b.utcMicros? zone = some y ∧ ShareSecond x y

/-- Two dates are readings of one clock, which shows the second one later, but not in UTC. -/
structure Timestamp.TurnsBack (zone : LocalZone) (a b : Timestamp) : Prop where
  /-- The clock is the local one or that of a region, which may be set back. -/
  isSame : b.clock.isSame a.clock = true
  wall_lt : a.wall < b.wall
  utc_le : ∃ x y, a.utcMicros? zone = some x ∧ b.utcMicros? zone = some y ∧ y ≤ x

section Order

variable {zone : LocalZone} {a b : Timestamp} {x y : Int} (ha : a.utcMicros? zone = some x)
  (hb : b.utcMicros? zone = some y)
include ha hb

/-- Two dates share a second if the numbers of their seconds agree. -/
theorem Timestamp.sharesSecond_iff : a.SharesSecond zone b ↔ ShareSecond x y := by
  simp [SharesSecond, ha, hb]

/-- A date that is later than another one is a later instant, unless the clock turns back. -/
theorem Timestamp.turnsBack_iff_of_le? (h : b.le? a = some false) :
    a.TurnsBack zone b ↔ y ≤ x := by
  constructor
  · rintro ⟨-, -, x', y', hx, hy, hle⟩
    obtain rfl := Option.some.inj (ha.symm.trans hx)
    obtain rfl := Option.some.inj (hb.symm.trans hy)
    exact hle
  · intro hle
    rw [le?] at h
    split at h
    · rename_i hsame
      rw [Option.some.injEq, decide_eq_false_iff_not, Int.not_le] at h
      exact ⟨hsame, h, x, y, ha, hb, hle⟩
    · -- Other dates are compared as the instants that are written.
      split at h
      · rename_i second first hsecond hfirst
        rw [utcMicros?_of_instant? hfirst, Option.some.injEq] at ha
        rw [utcMicros?_of_instant? hsecond, Option.some.injEq] at hb
        rw [Option.some.injEq, decide_eq_false_iff_not] at h
        omega
      · contradiction

end Order

/-- Claims that pass the check expire after they are issued, as the two dates are compared. -/
theorem StandardClaims.le?_of_checkLifetime {c : StandardClaims} {issuedAt expiresAt : Timestamp}
    (h : c.checkLifetime = .ok ()) (hissued : c.issuedAt = some issuedAt)
    (hexpires : c.expiresAt = some expiresAt) : expiresAt.le? issuedAt = some false := by
  rw [checkLifetime, hexpires, hissued] at h
  simp only at h
  split at h
  · contradiction
  · contradiction
  · assumption

/-! ## What is written -/

namespace Claims

variable {c : Claims} {zone : LocalZone} {payload : Members}

/-- The written time of issue and the written end are those of the claims. -/
theorem lifetime_iff_of_payload (hpayload : c.payload zone = .ok payload)
    {rel : Int → Int → Prop} : payload.Lifetime rel ↔ ∀ issuedAt expiresAt,
      c.envelope.issuedAt = some issuedAt → c.envelope.expiresAt = some expiresAt →
      ∃ m n, issuedAt.wireSeconds? zone = some m ∧ expiresAt.wireSeconds? zone = some n
        ∧ rel m n := by
  -- A date of the claims and the entry of its time claim come together.
  have hdated (claim : TimeClaim) {value : Json}
      (hget : payload.get? (Text.ofString claim.wire) = some value) :
      ∃ date, c.envelope.time? claim = some date := by
    cases hdate : c.envelope.time? claim with
    | none =>
      rw [get?_time_eq_none hpayload hdate] at hget
      contradiction
    | some date => exact ⟨date, rfl⟩
  have hwritten (claim : TimeClaim) {date : Timestamp}
      (hdate : c.envelope.time? claim = some date) :
      ∃ n, date.wireSeconds? zone = some n
        ∧ payload.get? (Text.ofString claim.wire) = some (.int n) :=
    exists_seconds_of_payload hpayload hdate
  constructor
  · intro h issuedAt expiresAt hissued hexpires
    obtain ⟨m, hm, hissuedEntry⟩ := hwritten .issuedAt hissued
    obtain ⟨n, hn, hexpiryEntry⟩ := hwritten .expiresAt hexpires
    obtain ⟨m, n, ⟨⟩, ⟨⟩, hrel⟩ := h _ _ hissuedEntry hexpiryEntry
    exact ⟨m, n, hm, hn, hrel⟩
  · intro h issued expiry hissuedEntry hexpiryEntry
    obtain ⟨issuedAt, hissued⟩ := hdated .issuedAt hissuedEntry
    obtain ⟨expiresAt, hexpires⟩ := hdated .expiresAt hexpiryEntry
    obtain ⟨m, n, hm, hn, hrel⟩ := h issuedAt expiresAt hissued hexpires
    obtain ⟨m', hm', hissuedWritten⟩ := hwritten .issuedAt hissued
    obtain ⟨n', hn', hexpiryWritten⟩ := hwritten .expiresAt hexpires
    obtain rfl := Option.some.inj (hm.symm.trans hm')
    obtain rfl := Option.some.inj (hn.symm.trans hn')
    exact ⟨m, n, Option.some.inj (hissuedEntry.symm.trans hissuedWritten),
      Option.some.inj (hexpiryEntry.symm.trans hexpiryWritten), hrel⟩

/-- How the two seconds that are written for the dates of signed claims are related. -/
theorem exists_seconds_of_checkLifetime (hpayload : c.payload zone = .ok payload)
    (hlifetime : c.envelope.checkLifetime = .ok ())
    {issuedAt expiresAt : Timestamp} (hissued : c.envelope.issuedAt = some issuedAt)
    (hexpires : c.envelope.expiresAt = some expiresAt) :
    ∃ m n, issuedAt.wireSeconds? zone = some m ∧ expiresAt.wireSeconds? zone = some n
      ∧ (m = n ↔ issuedAt.SharesSecond zone expiresAt)
      ∧ (issuedAt.TurnsBack zone expiresAt → n ≤ m)
      ∧ (¬issuedAt.TurnsBack zone expiresAt → m ≤ n) := by
  obtain ⟨m, hm, -⟩ :=
    exists_seconds_of_payload hpayload (show c.envelope.time? .issuedAt = _ from hissued)
  obtain ⟨n, hn, -⟩ :=
    exists_seconds_of_payload hpayload (show c.envelope.time? .expiresAt = _ from hexpires)
  obtain ⟨x, hx, rfl⟩ := Timestamp.wireSeconds?_eq_some_iff.mp hm
  obtain ⟨y, hy, rfl⟩ := Timestamp.wireSeconds?_eq_some_iff.mp hn
  have hxBound := Timestamp.natAbs_utcMicros_lt hx
  have hyBound := Timestamp.natAbs_utcMicros_lt hy
  have hturns := Timestamp.turnsBack_iff_of_le? hx hy
    (StandardClaims.le?_of_checkLifetime hlifetime hissued hexpires)
  refine ⟨_, _, hm, hn, ?_, fun hback => ?_, fun hforth => ?_⟩
  · rw [Timestamp.sharesSecond_iff hx hy,
      Timestamp.truncatedSeconds_eq_truncatedSeconds_iff hxBound hyBound]
  · exact Timestamp.truncatedSeconds_le hyBound hxBound (hturns.mp hback)
  · exact Timestamp.truncatedSeconds_le hxBound hyBound (Int.not_le.mp (hturns.not.mp hforth)).le

/-- A relation between the written seconds holds if and only if one between the dates does, if this
is so for any seconds that may be written for them. -/
theorem lifetime_iff_of_checkLifetime (hpayload : c.payload zone = .ok payload)
    (hlifetime : c.envelope.checkLifetime = .ok ()) {rel : Int → Int → Prop}
    {related : Timestamp → Timestamp → Prop}
    (h : ∀ issuedAt expiresAt m n, (m = n ↔ issuedAt.SharesSecond zone expiresAt) →
      (issuedAt.TurnsBack zone expiresAt → n ≤ m) →
      (¬issuedAt.TurnsBack zone expiresAt → m ≤ n) → (rel m n ↔ related issuedAt expiresAt)) :
    payload.Lifetime rel ↔ ∀ issuedAt expiresAt, c.envelope.issuedAt = some issuedAt →
      c.envelope.expiresAt = some expiresAt → related issuedAt expiresAt := by
  rw [lifetime_iff_of_payload hpayload]
  refine forall₄_congr fun issuedAt expiresAt hissued hexpires => ?_
  obtain ⟨m, n, hm, hn, hshares, hback, hforth⟩ :=
    exists_seconds_of_checkLifetime hpayload hlifetime hissued hexpires
  simp only [hm, hn, Option.some.injEq, exists_and_left, exists_eq_left',
    h issuedAt expiresAt m n hshares hback hforth]

/-- In every zone, the end of a signed token is written as a later second than its time of issue if
and only if the two dates of the claims lie in different seconds and their clock does not turn back.
The end is written as an earlier second if and only if they lie in different seconds and their clock
turns back. -/
theorem lifetime_of_sign (zone : LocalZone) (c : Claims) (key : KeyArgument) (t : Text)
    (hsign : c.sign key zone = .ok t) :
    ∃ payload, c.payload zone = .ok payload ∧ t.Carries payload
      ∧ (payload.Lifetime (· < ·) ↔ ∀ issuedAt expiresAt, c.envelope.issuedAt = some issuedAt →
        c.envelope.expiresAt = some expiresAt →
        ¬issuedAt.SharesSecond zone expiresAt ∧ ¬issuedAt.TurnsBack zone expiresAt)
      ∧ (payload.Lifetime (· ≤ ·) ↔ ∀ issuedAt expiresAt, c.envelope.issuedAt = some issuedAt →
        c.envelope.expiresAt = some expiresAt →
        issuedAt.SharesSecond zone expiresAt ∨ ¬issuedAt.TurnsBack zone expiresAt) := by
  obtain ⟨pair, privateKey, payload, -, -, hlifetime, hpayload, htoken⟩ :=
    sign_eq_ok_iff.mp hsign
  refine ⟨payload, hpayload, PrivateKey.carries_of_token htoken, ?_, ?_⟩
  · refine lifetime_iff_of_checkLifetime hpayload hlifetime
      fun issuedAt expiresAt m n hshares hback hforth => ?_
    rw [← hshares]
    by_cases hturns : issuedAt.TurnsBack zone expiresAt
    · have hle := hback hturns
      simp only [hturns, not_true_eq_false, and_false, iff_false]
      omega
    · have hle := hforth hturns
      simp only [hturns, not_false_eq_true, and_true]
      omega
  · refine lifetime_iff_of_checkLifetime hpayload hlifetime
      fun issuedAt expiresAt m n hshares hback hforth => ?_
    rw [← hshares]
    by_cases hturns : issuedAt.TurnsBack zone expiresAt
    · have hle := hback hturns
      simp only [hturns, not_true_eq_false, or_false]
      omega
    · simp only [hturns, not_false_eq_true, or_true, hforth hturns]

/-- A server's claims that are signed, with an end in a later second. -/
theorem exists_lifetime_serverSample : ∃ t payload,
    serverSample.sign (.pair mersennePair) = .ok t
      ∧ serverSample.payload = .ok payload ∧ payload.Lifetime (· < ·) := by
  obtain ⟨t, hsign, -⟩ := serverSample_portable.exists_sign mersennePair_verifiesItself .utc
  obtain ⟨payload, hpayload, -, hlifetime, -⟩ :=
    lifetime_of_sign .utc serverSample (.pair mersennePair) t hsign
  refine ⟨t, payload, hsign, hpayload, hlifetime.mpr ?_⟩
  rintro - - ⟨⟩ ⟨⟩
  refine ⟨?_, fun hturns => Bool.false_ne_true hturns.isSame⟩
  rintro ⟨x, y, hx, hy, n, hissued, hexpires⟩
  obtain rfl := Option.some.inj hx
  obtain rfl := Option.some.inj hy
  -- The first second after 1970 and the end of the first hour.
  have hfirst : InSecond 1 1000000 := ⟨by decide, by decide, by decide, by decide⟩
  have hhour : InSecond 3600 3600000000 := ⟨by decide, by decide, by decide, by decide⟩
  have hn := hissued.unique hfirst (by decide)
  have hn' := hexpires.unique hhour (by decide)
  omega

/-- Claims that are issued a quarter past a second, and expire half a second later. -/
def briefSample : Claims :=
  .standard { issuedAt := some (.utc 10250000), expiresAt := some (.utc 10750000) }

/-- A clock that is five hours behind UTC, and from 7:00 on 10 March 2024 in UTC four hours. -/
def easternZone : LocalZone where
  ahead second := if second < 1710054000 then -18000 else -14400
  ahead_lt second := by
    split <;> decide

/-- Claims without offsets: issued at 2:30 on that day, which the clock skips, and expiring at
3:00. -/
def skippedSample : Claims :=
  .standard {
    issuedAt := some { wall := 1710037800000000, clock := .naive }
    expiresAt := some { wall := 1710039600000000, clock := .naive } }

/-- Not every signed token has a lifetime. Claims that pass the check have ten seconds written for
both of their dates, and others have an end written that lies half an hour before their time of
issue. -/
theorem not_lifetime_of_sign :
    (∃ t payload, briefSample.sign (.pair mersennePair) = .ok t
      ∧ briefSample.payload = .ok payload ∧ t.Carries payload
      ∧ payload.get? (Text.ofString "iat") = some (.int 10)
      ∧ payload.get? (Text.ofString "exp") = some (.int 10)
      ∧ ¬payload.Lifetime (· < ·))
    ∧ ∃ t payload, skippedSample.sign (.pair mersennePair) easternZone = .ok t
      ∧ skippedSample.payload easternZone = .ok payload ∧ t.Carries payload
      ∧ payload.get? (Text.ofString "iat") = some (.int 1710055800)
      ∧ payload.get? (Text.ofString "exp") = some (.int 1710054000)
      ∧ ¬payload.Lifetime (· < ·) := by
  constructor
  · have hpayload : briefSample.payload = .ok [(Text.ofString "purpose", .string []),
        (Text.ofString "iss", .string []), (Text.ofString "iat", .int 10),
        (Text.ofString "exp", .int 10)] := by rfl
    obtain ⟨t, hsign, hcarries⟩ :=
      mersennePair_verifiesItself.exists_sign (c := briefSample) rfl hpayload rfl
    refine ⟨t, _, hsign, hpayload, hcarries, rfl, rfl, fun hlifetime => ?_⟩
    obtain ⟨m, n, hm, hn, hlt⟩ := hlifetime (.int 10) (.int 10) rfl rfl
    obtain rfl := Json.int.inj hm
    obtain rfl := Json.int.inj hn
    exact Int.lt_irrefl 10 hlt
  · have hpayload : skippedSample.payload easternZone = .ok [
        (Text.ofString "purpose", .string []), (Text.ofString "iss", .string []),
        (Text.ofString "iat", .int 1710055800), (Text.ofString "exp", .int 1710054000)] := by rfl
    obtain ⟨t, hsign, hcarries⟩ :=
      mersennePair_verifiesItself.exists_sign (c := skippedSample) rfl hpayload rfl
    refine ⟨t, _, hsign, hpayload, hcarries, rfl, rfl, fun hlifetime => ?_⟩
    obtain ⟨m, n, hm, hn, hlt⟩ := hlifetime (.int 1710055800) (.int 1710054000) rfl rfl
    obtain rfl := Json.int.inj hm
    obtain rfl := Json.int.inj hn
    exact absurd hlt (by decide)

end Claims

end FleetToken
