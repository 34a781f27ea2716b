import FleetToken.Proofs.Claims.TwoPhases
import FleetToken.Proofs.Time.Reader
import FleetToken.Proofs.Time.Seconds
import FleetToken.Proofs.Token.Checks
import FleetToken.Proofs.Token.Signed

/-!
# The end of verified claims

The end of a token is looked at twice. Verification takes the integer part of what stands under the
wire name and counts seconds. Claims read a date, which may be a number of milliseconds, may have a
fraction, and may go by its plain name. Verified claims have not expired but for these three
differences.

## Main definitions

* `Timestamp.LiesAhead`: a clock has not shown a date yet.
* `EndOverlooked`: verification does not see that the end of the claims has come.

## Main results

* `Timestamp.liesAhead_of_isBefore`: an end that both count in whole seconds lies in the future.
* `live_iff_not_endOverlooked`: when verified claims have not expired.
* `exists_expired`: verified claims that have expired.
-/

namespace FleetToken

/-! ## The end that verification sees -/

/-- A value with a date and an integer is a number, and the integer is its integer part. -/
theorem exists_number?_of_timeInt? {value : Json} {n : Int} {date : Timestamp}
    (htime : timeInt? value = some n) (hdate : Timestamp.ofJson value = .ok date) :
    ∃ num den, value.number? = some (num, den) ∧ 0 < den ∧ num.tdiv den = n := by
  cases value with
  | int m =>
    obtain rfl := Option.some.inj htime
    exact ⟨m, 1, rfl, Nat.one_pos, Int.tdiv_one m⟩
  | float x =>
    obtain ⟨⟨num, den⟩, hratio, hn⟩ := Option.map_eq_some_iff.mp htime
    exact ⟨num, den, hratio, Binary64.den_pos_of_ratio? hratio, hn⟩
  | string t =>
    refine ⟨n, 1, ?_, Nat.one_pos, Int.tdiv_one n⟩
    rw [Json.number?, show Text.readInt? t = some n from htime]
    rfl
  -- A truth value has an integer and no date; the others have neither.
  | _ => contradiction

/-- A clock has not shown a date yet, and can be compared with it. -/
def Timestamp.LiesAhead (date : Timestamp) (clock : Clock) : Prop :=
  ∃ micros, date.instant? = some micros ∧ clock.micros < micros

/-- An end that is at most the watershed and, if it lies before 1970, has no fraction is read as
the same time twice. -/
theorem Timestamp.liesAhead_of_isBefore {clock : Clock} {value : Json} {num : Int} {den : Nat}
    (hnumber : value.number? = some (num, den)) (hden : 0 < den)
    (hsmall : num ≤ watershed * den) (hwhole : 0 ≤ num ∨ (den : Int) ∣ num)
    (hbefore : clock.isBefore (num.tdiv den) = true) {date : Timestamp}
    (hdate : ofJson value = .ok date) : date.LiesAhead clock := by
  obtain ⟨hutc, hmicros⟩ := utc_of_ofJson hnumber hdate
  refine ⟨date.wall, instant?_of_clock_eq hutc, ?_⟩
  have hdenPos : (0 : Int) < den := Int.natCast_pos.mpr hden
  -- Cutting toward zero is rounding down unless a negative number has a fraction.
  have hfloor : num.tdiv den = num / den := by
    rcases hwhole with hnonneg | hdvd
    · exact Int.tdiv_eq_ediv_of_nonneg hnonneg
    · exact Int.tdiv_eq_ediv_of_dvd hdvd
  have hseconds : num / den ≤ watershed := Int.ediv_le_of_le_mul hdenPos hsmall
  rw [hfloor] at hbefore
  have hlt := Clock.lt_of_isBefore hseconds hbefore
  -- Milliseconds are only counted far before 1970, where they make a later date than seconds.
  have hunit : num / den * microsPerSecond ≤ num / den * unitMicros num den := by
    rw [unitMicros]
    split
    · exact le_rfl
    · rename_i hlarge
      have hneg : num < 0 := by
        rw [show watershed.natAbs = 20000000000 from rfl] at hlarge
        rw [watershed] at hsmall
        omega
      have hbelow := Int.ediv_neg_of_neg_of_pos hneg hdenPos
      rw [microsPerSecond]
      omega
  calc clock.micros < num / den * microsPerSecond := hlt
    _ ≤ num / den * unitMicros num den := hunit
    _ ≤ date.wall := hmicros

/-! ## The end that claims read -/

/-- A date is compared with a clock as an instant. -/
theorem Timestamp.le?_instant (t : Timestamp) (clock : Clock) :
    t.le? clock.instant = t.instant?.map fun micros => decide (micros ≤ clock.micros) := by
  have hclock : clock.instant.instant? = some clock.micros := instant?_of_clock_eq rfl
  have hother : t.clock.isSame clock.instant.clock = false := by
    cases t.clock <;> rfl
  rw [le?, hother, if_neg Bool.false_ne_true, hclock]
  cases t.instant? with
  | none => rfl
  | some micros => rfl

/-- Claims are not expired if their end, should they have one, lies ahead. -/
theorem Claims.isExpired?_eq_some_false_iff {claims : Claims} {clock : Clock} :
    claims.isExpired? clock = some false ↔
      ∀ date, claims.envelope.expiresAt = some date → date.LiesAhead clock := by
  rw [isExpired?]
  cases claims.envelope.expiresAt with
  | none => simp
  | some date => simp [Timestamp.le?_instant, Timestamp.LiesAhead]

/-! ## Ends that verification overlooks -/

/-- The end of the claims in a payload has come, or cannot be compared with a clock, and
verification does not see it. -/
inductive EndOverlooked (payload : Members) (clock : Clock) : Prop where
  /-- The number of seconds is so large that the date counts as many milliseconds. -/
  | milliseconds {value : Json} {num : Int} {den : Nat} {date : Timestamp}
      (hvalue : payload.get? (Text.ofString "exp") = some value)
      (hnumber : value.number? = some (num, den)) (hlarge : Timestamp.watershed * den < num)
      (hdate : Timestamp.ofJson value = .ok date) (hreached : ¬date.LiesAhead clock)
  /-- The number of seconds before 1970 has a fraction, which is cut off toward 1970. -/
  | fraction {value : Json} {num : Int} {den : Nat} {date : Timestamp}
      (hvalue : payload.get? (Text.ofString "exp") = some value)
      (hnumber : value.number? = some (num, den)) (hneg : num < 0) (hfraction : ¬(den : Int) ∣ num)
      (hdate : Timestamp.ofJson value = .ok date) (hreached : ¬date.LiesAhead clock)
  /-- The date goes by its plain name, and verification looks under the wire name alone. -/
  | plainName {value : Json} {date : Timestamp}
      (hwire : payload.get? (Text.ofString "exp") = none)
      (hvalue : payload.get? (Text.ofString "expires_at") = some value)
      (hdate : Timestamp.ofJson value = .ok date) (hreached : ¬date.LiesAhead clock)

namespace Claims

variable {payload : Members} {clock : Clock}

/-- The end that claims read has come if and only if verification overlooks it. -/
theorem reached_iff_endOverlooked (hchecked : checkUnexpired payload clock = .ok ()) :
    (∃ value date, Reading.member? payload .expiresAt = some value
        ∧ Timestamp.ofJson value = .ok date ∧ ¬date.LiesAhead clock)
      ↔ EndOverlooked payload clock := by
  have hmember : Reading.member? payload .expiresAt
      = (payload.get? (Text.ofString "exp")).or (payload.get? (Text.ofString "expires_at")) := rfl
  rw [hmember]
  constructor
  · rintro ⟨value, date, hvalue, hdate, hreached⟩
    -- Claims read the end under its plain name only where the wire name is absent.
    cases hwire : payload.get? (Text.ofString "exp") with
    | none =>
      rw [hwire, Option.none_or] at hvalue
      exact .plainName hwire hvalue hdate hreached
    | some found =>
      rw [hwire, Option.some_or, Option.some.injEq] at hvalue
      subst hvalue
      obtain ⟨n, htime, hbefore⟩ := checkUnexpired_eq_ok_iff.mp hchecked found hwire
      obtain ⟨num, den, hnumber, hden, rfl⟩ := exists_number?_of_timeInt? htime hdate
      -- Numbers beyond the watershed are read as milliseconds, and negative fractions round apart.
      by_cases hsmall : num ≤ Timestamp.watershed * den
      · by_cases hwhole : 0 ≤ num ∨ (den : Int) ∣ num
        · exact absurd (Timestamp.liesAhead_of_isBefore hnumber hden hsmall hwhole hbefore hdate)
            hreached
        · obtain ⟨hneg, hfraction⟩ := not_or.mp hwhole
          exact .fraction hwire hnumber (Int.not_le.mp hneg) hfraction hdate hreached
      · exact .milliseconds hwire hnumber (Int.not_le.mp hsmall) hdate hreached
  · rintro (⟨hvalue, -, -, hdate, hreached⟩ | ⟨hvalue, -, -, -, hdate, hreached⟩
      | ⟨hwire, hvalue, hdate, hreached⟩)
    · exact ⟨_, _, by rw [hvalue, Option.some_or], hdate, hreached⟩
    · exact ⟨_, _, by rw [hvalue, Option.some_or], hdate, hreached⟩
    · exact ⟨_, _, by rw [hwire, hvalue, Option.none_or], hdate, hreached⟩

/-- Claims of a payload that has passed its checks are not expired unless their end is overlooked.
-/
theorem isExpired?_eq_some_false_iff_not_endOverlooked {kind : ClaimsType} {claims : Claims}
    (hchecked : checkPayload payload clock = .ok ())
    (hclaims : ofMembers kind payload = .ok claims) :
    claims.isExpired? clock = some false ↔ ¬EndOverlooked payload clock := by
  rw [isExpired?_eq_some_false_iff,
    ← reached_iff_endOverlooked (checkPayload_eq_ok_iff.mp hchecked).2.2.1]
  simp only [expiresAt_eq_some_iff hclaims]
  constructor
  · rintro h ⟨value, date, hvalue, hdate, hreached⟩
    exact hreached (h date ⟨value, hvalue, hdate⟩)
  · rintro h date ⟨value, hvalue, hdate⟩
    by_contra hreached
    exact h ⟨value, date, hvalue, hdate, hreached⟩

end Claims

/-! ## Verified claims -/

/-- Claims that were parsed stand in a verified payload. -/
theorem exists_ofMembers_of_parse {token : TokenInput} {key : KeyArgument} {clock : Clock}
    {claims : Claims} (h : parseAnyToken token key clock = .ok claims
      ∨ ∃ kind, parseToken token key clock kind = .ok claims) :
    ∃ payload kind, verifiedPayload token key clock = .ok payload
      ∧ Claims.ofMembers kind payload = .ok claims := by
  rcases h with hany | ⟨kind, hkind⟩
  · obtain ⟨payload, hverified, hdecoded⟩ := bind_eq_ok_iff.mp hany
    obtain ⟨kind, -, -, hdecodedAs⟩ :=
      Claims.decode_eq_ok_iff.mp hdecoded
    exact ⟨payload, kind, hverified, Claims.ofMembers_of_decodeAs hdecodedAs⟩
  · obtain ⟨payload, hverified, hdecoded⟩ := bind_eq_ok_iff.mp hkind
    exact ⟨payload, kind, hverified,
      Claims.ofMembers_of_decodeAs hdecoded⟩

/-- Claims that are accepted have not expired at the time of their verification, and can be asked
for it, if and only if verification did not overlook their end. -/
theorem live_iff_not_endOverlooked (token : TokenInput) (key : KeyArgument) (clock : Clock)
    (claims : Claims) (h : parseAnyToken token key clock = .ok claims
      ∨ ∃ kind, parseToken token key clock kind = .ok claims) :
    ∃ payload, verifiedPayload token key clock = .ok payload
      ∧ (claims.isExpired? clock = some false ↔ ¬EndOverlooked payload clock) := by
  obtain ⟨payload, kind, hverified, hclaims⟩ := exists_ofMembers_of_parse h
  have hchecked := (verifiedPayload_eq_ok_iff.mp hverified).2
  exact ⟨payload, hverified,
    Claims.isExpired?_eq_some_false_iff_not_endOverlooked hchecked hclaims⟩

/-! ### Ends that lie in the future and in the past -/

/-- A payload that is read as it is written is the envelope of a verified token. -/
theorem exists_parsed_mersennePair {payload : Members} {clock : Clock} {claims : Claims}
    (hwritable : (Json.object payload).isWritable = true)
    (hread : Json.decode (Json.object payload).compact.toUtf8 = .ok (.object payload))
    (hchecked : checkPayload payload clock = .ok ())
    (hdecoded : Claims.decodeAs .standard (.object payload) = .ok claims) :
    ∃ token, parseToken (.text token) mersennePair.publicArgument clock .standard = .ok claims := by
  obtain ⟨token, hverified⟩ := exists_verified_mersennePair hwritable hread clock hchecked
  refine ⟨token, ?_⟩
  rw [parseToken, hverified, ok_bind, hdecoded]

/-- An end one minute ahead. -/
theorem exists_live_mersennePair : ∃ token claims,
    parseToken (.text token) mersennePair.publicArgument (.mk 0) .standard = .ok claims
      ∧ claims.envelope.expiresAt = some (.ofSeconds 60)
      ∧ claims.isExpired? (.mk 0) = some false
      ∧ ∃ payload, verifiedPayload (.text token) mersennePair.publicArgument (.mk 0) = .ok payload
        ∧ (claims.isExpired? (.mk 0) = some false ↔ ¬EndOverlooked payload (.mk 0)) := by
  have hpayload := Json.lossless_singleton "exp"
    (Json.lossless_int (show (60 : Int).natAbs < 10 ^ 20 by decide))
  have hchecked : checkPayload [(Text.ofString "exp", .int 60)] (.mk 0) = .ok () := by
    decide +kernel
  obtain ⟨token, hparsed⟩ := exists_parsed_mersennePair hpayload.isWritable
    (Json.decode_compact hpayload) hchecked rfl
  exact ⟨token, _, hparsed, rfl, rfl,
    live_iff_not_endOverlooked (.text token) mersennePair.publicArgument (.mk 0) _
      (.inr ⟨.standard, hparsed⟩)⟩

/-- Claims that are accepted when their end has come: one so large that it is taken for
milliseconds, one shortly before 1970 with a fraction, and one under its plain name. -/
theorem exists_expired :
    (∃ token claims, parseToken (.text token) mersennePair.publicArgument (.mk 1700000000000000)
        .standard = .ok claims ∧ claims.isExpired? (.mk 1700000000000000) = some true)
    ∧ (∃ token claims, parseToken (.text token) mersennePair.publicArgument (.mk (-200000))
        .standard = .ok claims ∧ claims.isExpired? (.mk (-200000)) = some true)
    ∧ (∃ token claims, parseToken (.text token) mersennePair.publicArgument (.mk 0)
        .standard = .ok claims ∧ claims.isExpired? (.mk 0) = some true) := by
  refine ⟨?_, ?_, ?_⟩
  -- The number of seconds after the watershed.
  · have hpayload := Json.lossless_singleton "exp"
      (Json.lossless_int (show (20000000001 : Int).natAbs < 10 ^ 20 by decide))
    have hchecked : checkPayload [(Text.ofString "exp", .int 20000000001)] (.mk 1700000000000000)
        = .ok () := by decide +kernel
    obtain ⟨token, hparsed⟩ := exists_parsed_mersennePair hpayload.isWritable
      (Json.decode_compact hpayload) hchecked rfl
    exact ⟨token, _, hparsed, rfl⟩
  -- Half a second before 1970.
  · have hread : Json.decode
        (Json.object [(Text.ofString "exp", .float ⟨0xBFE0000000000000⟩)]).compact.toUtf8
        = .ok (.object [(Text.ofString "exp", .float ⟨0xBFE0000000000000⟩)]) := rfl
    have hchecked : checkPayload [(Text.ofString "exp", .float ⟨0xBFE0000000000000⟩)]
        (.mk (-200000)) = .ok () := by decide +kernel
    obtain ⟨token, hparsed⟩ := exists_parsed_mersennePair (by decide) hread hchecked rfl
    exact ⟨token, _, hparsed, rfl⟩
  · have hpayload := Json.lossless_singleton "expires_at"
      (Json.lossless_int (show (0 : Int).natAbs < 10 ^ 20 by decide))
    obtain ⟨token, hparsed⟩ := exists_parsed_mersennePair hpayload.isWritable
      (Json.decode_compact hpayload) rfl rfl
    exact ⟨token, _, hparsed, rfl⟩

end FleetToken
