import FleetToken.Proofs.Claims.Provisioning

/-!
# Failures of builders

What goes wrong when claims are built should be an error of tokens, under settings that can be read.
The builders check what they are given and report it as such. The one oversight is the end of the
claims: it is computed without a look at the last date that is represented, so a span that leads
beyond it is reported as a failure of arithmetic, be it wished for or set.

## Main definitions

* `BuildRequest.EndOverflows`: the end of the claims is not represented.

## Main results

* `BuildRequest.build_contained_iff`: the calls whose outcome is contained.
* `BuildRequest.endOverflows_iff`: the overflow in numbers.
-/

namespace FleetToken

/-- A bad organization is refused with a token error. -/
theorem contained_checkOrganization (t : Text) : Contained (checkOrganization t) := by
  cases hname : checkOrganization t with
  | ok name => trivial
  | error failure =>
    obtain ⟨fault, rfl⟩ := invalidClaims_of_checkOrganization hname
    rfl

/-- So is an argument that is no key. -/
theorem contained_embeddedPublicKey (key : KeyArgument) : Contained (embeddedPublicKey key) := by
  rw [embeddedPublicKey.eq_def]
  split
  · rfl
  split
  · trivial
  · rfl

namespace BuildRequest

/-- The microseconds that the claims are to last: those of the wished span, if there is one, and
those of the settings otherwise. -/
def spanMicros (settings : Settings) (r : BuildRequest) : Int :=
  match r.validity with
  | some d => d.micros
  | none => settings.defaultValidity * microsPerSecond

/-- The span is not refused, and the claims would end beyond the years that are represented; or the
settings have too many seconds for a span in the first place. -/
def EndOverflows (settings : Settings) (clock : Clock) (r : BuildRequest) : Prop :=
  (∀ d, r.validity = some d → 0 < d.micros)
    ∧ ((r.validity = none ∧ Duration.ofSeconds? settings.defaultValidity = none)
      ∨ Timestamp.inRange (clock.wholeSecond.wall + r.spanMicros settings) = false)

end BuildRequest

/-! ## The span and the end -/

/-- Two things can be wrong with a span: it is wished for and not positive, or the settings have too
many seconds for one. -/
theorem Settings.validity_eq_error_iff {settings : Settings} {wished : Option Duration}
    {failure : Failure} : settings.validity wished = .error failure ↔
      (∃ d, wished = some d ∧ d.micros ≤ 0
        ∧ failure = .token (.invalidClaims .validityNotPositive))
      ∨ (wished = none ∧ Duration.ofSeconds? settings.defaultValidity = none
        ∧ failure = .outOfRange) := by
  cases wished with
  | some d =>
    by_cases hd : d.micros ≤ 0
    · simp [validity, hd, eq_comm]
    · simp [validity, hd]
  | none =>
    cases hspan : Duration.ofSeconds? settings.defaultValidity with
    | none => simp [validity, hspan, eq_comm]
    | some span => simp [validity, hspan]

/-- What can be wrong with an envelope under settings that can be read. -/
theorem StandardClaims.build_eq_error_iff {s : Surroundings} {settings : Settings}
    (hsettings : s.settings = .ok settings) {issuer : Text} {purpose : Purpose}
    {validity : Option Duration} {subjectIsPurpose : Bool} {failure : Failure} :
    build s issuer purpose validity subjectIsPurpose = .error failure ↔
      (purpose = .unknown ∧ failure = .token (.invalidClaims .purposeRequired))
      ∨ (purpose ≠ .unknown ∧ (settings.validity validity = .error failure
        ∨ ∃ span, settings.validity validity = .ok span
          ∧ s.clock.wholeSecond.add? span = none ∧ failure = .outOfRange)) := by
  rw [build, hsettings, ok_bind]
  by_cases hpurpose : purpose = .unknown
  · simp [hpurpose, eq_comm]
  · simp only [hpurpose, ↓reduceIte, bind_eq_error_iff, false_and, false_or, ne_eq,
      not_false_eq_true, true_and]
    refine or_congr_right (exists_congr fun span => and_congr_right fun _ => ?_)
    cases s.clock.wholeSecond.add? span with
    | none => simp [eq_comm]
    | some expiresAt => simp

namespace BuildRequest

variable {s : Surroundings} {r : BuildRequest} {settings : Settings}

/-- The span of a request is that of the validity that the settings give it. -/
theorem spanMicros_of_validity {span : Duration} (h : settings.validity r.validity = .ok span) :
    r.spanMicros settings = span.micros := by
  rw [spanMicros]
  rcases Settings.validity_eq_ok_iff.mp h with ⟨hwished, -⟩ | ⟨hwished, hspan⟩
  · rw [hwished]
  · obtain ⟨-, hmicros⟩ := Option.ite_none_right_eq_some.mp hspan
    rw [hwished]
    exact congrArg Duration.micros (Option.some.inj hmicros)

/-- The envelope is out of range if and only if its purpose is known and its end overflows. -/
theorem envelope_eq_outOfRange_iff (hsettings : s.settings = .ok settings) :
    r.envelope s = .error .outOfRange ↔
      r.purpose ≠ .unknown ∧ r.EndOverflows settings s.clock := by
  obtain ⟨issuer, subjectIsPurpose, henvelope⟩ := exists_envelope_eq s r
  rw [henvelope, StandardClaims.build_eq_error_iff hsettings]
  constructor
  · -- Of the failures of an envelope, one is about its purpose and two are about its end.
    rintro (⟨-, hother⟩ | ⟨hpurpose, hfails | ⟨span, hspan, hadd, -⟩⟩)
    · contradiction
    · rcases Settings.validity_eq_error_iff.mp hfails with ⟨-, -, -, hother⟩ | ⟨hnone, hcount, -⟩
      · contradiction
      · exact ⟨hpurpose, by simp [hnone], .inl ⟨hnone, hcount⟩⟩
    · refine ⟨hpurpose, fun d hd => ?_, .inr ?_⟩
      · rcases Settings.validity_eq_ok_iff.mp hspan with ⟨hwished, hpositive⟩ | ⟨hwished, -⟩
        · rwa [← Option.some.inj (hd.symm.trans hwished)] at hpositive
        · rw [hwished] at hd
          contradiction
      · rwa [spanMicros_of_validity hspan, ← Timestamp.add?_eq_none_iff]
  · rintro ⟨hpurpose, hpositive, hend⟩
    refine .inr ⟨hpurpose, ?_⟩
    -- The overflow shows while the validity is taken, or when it is added to the clock.
    cases hspan : settings.validity r.validity with
    | error failure =>
      rcases Settings.validity_eq_error_iff.mp hspan with ⟨d, hd, hrefused, -⟩ | ⟨-, -, rfl⟩
      · exact absurd (hpositive d hd) (Int.not_lt.mpr hrefused)
      · exact .inl rfl
    | ok span =>
      refine .inr ⟨span, rfl, ?_, rfl⟩
      rcases hend with ⟨hnone, hcount⟩ | hrange
      · rw [hnone, Settings.validity, hcount] at hspan
        contradiction
      · rwa [spanMicros_of_validity hspan, ← Timestamp.add?_eq_none_iff] at hrange

/-- There is no other failure but errors of tokens. -/
theorem isTokenError_of_envelope (hsettings : s.settings = .ok settings) {failure : Failure}
    (h : r.envelope s = .error failure) :
    failure.isTokenError = true ∨ failure = .outOfRange := by
  obtain ⟨issuer, subjectIsPurpose, henvelope⟩ := exists_envelope_eq s r
  rw [henvelope, StandardClaims.build_eq_error_iff hsettings] at h
  rcases h with ⟨-, rfl⟩ | ⟨-, hfails | ⟨-, -, -, hrange⟩⟩
  · exact .inl rfl
  · rcases Settings.validity_eq_error_iff.mp hfails with ⟨-, -, -, rfl⟩ | ⟨-, -, hrange⟩
    · exact .inl rfl
    · exact .inr hrange
  · exact .inr hrange

/-! ## The builders -/

/-- A missing name is refused with a token error. -/
theorem contained_checkName (r : BuildRequest) : Contained r.checkName := by
  rw [checkName]
  split
  · trivial
  · exact contained_map_iff.mpr (contained_checkOrganization _)

/-- The arguments that only one kind has are looked at first, and reported as errors of tokens. -/
theorem contained_build_of_not_isComplete (h : ¬r.IsComplete) : Contained (r.build s) := by
  cases r with
  | standard => exact absurd trivial h
  | provisioning r =>
    have hplace : r.urls = [] ∧ r.srvDomain = [] := by
      rwa [IsComplete, ← not_and_or, not_not] at h
    rw [build, contained_map_iff, ProvisioningClaims.build, if_pos hplace]
    rfl
  | client r =>
    rw [build, contained_map_iff, ClientClaims.build]
    split
    · rfl
    rename_i hcaller
    -- What is left to be missing is the key.
    refine contained_bind_iff.mpr ⟨contained_embeddedPublicKey _, fun t ht => ?_⟩
    exact absurd ⟨hcaller, t, ht⟩ h
  | server r =>
    rw [build, contained_map_iff, ServerClaims.build]
    split
    · rfl
    rename_i hidentity
    split
    · rfl
    rename_i hcollectives
    obtain ⟨hsome, hnamed⟩ := not_or.mp hcollectives
    refine contained_bind_iff.mpr ⟨contained_embeddedPublicKey _, fun t ht => ?_⟩
    exact absurd ⟨hidentity, hsome, hnamed, t, ht⟩ h

/-- Under settings that can be read the outcome of a builder is contained, but for complete calls
for a known purpose whose end overflows. These fail in the arithmetic of dates. -/
theorem build_contained_iff (s : Surroundings) (settings : Settings)
    (hsettings : s.settings = .ok settings) (r : BuildRequest) :
    (Contained (r.build s) ↔
      ¬(r.IsComplete ∧ r.purpose ≠ .unknown ∧ r.EndOverflows settings s.clock))
    ∧ (¬Contained (r.build s) → r.build s = .error .outOfRange) := by
  -- An incomplete call is refused before any date is looked at.
  by_cases hcomplete : r.IsComplete
  · rw [build_eq hcomplete, ← envelope_eq_outOfRange_iff hsettings]
    simp only [hcomplete, true_and]
    cases henvelope : r.envelope s with
    | ok envelope =>
      have hcontained : Contained (r.checkName.map fun _ => r.claims envelope) :=
        contained_map_iff.mpr r.contained_checkName
      simp [hcontained]
    | error failure =>
      rcases isTokenError_of_envelope hsettings henvelope with htoken | rfl
      · have hother : failure ≠ .outOfRange := by
          rintro rfl
          contradiction
        simp [htoken, hother]
      · simp [Failure.isTokenError]
  · have hcontained : Contained (r.build s) := contained_build_of_not_isComplete hcomplete
    simp [hcontained, hcomplete]

/-- The builders are contained for a call without a wish, under settings without variables. -/
theorem contained_sampleRequest : (sampleSurroundings []).settings = .ok {}
    ∧ Contained (sampleRequest.build (sampleSurroundings [])) := by
  have hsettings : (sampleSurroundings []).settings = .ok {} := by rfl
  refine ⟨hsettings, ((build_contained_iff _ _ hsettings sampleRequest).1).mpr ?_⟩
  rintro ⟨-, -, -, ⟨-, hcount⟩ | hrange⟩
  · contradiction
  · exact absurd hrange (by decide)

/-- A call for claims that last for more than eight thousand years. -/
def lateRequest : BuildRequest :=
  .standard [] .server (some ⟨3000000 * microsPerDay⟩) false

/-- A setting of some thirty thousand years. -/
def lateSetting : Environment :=
  [(Text.ofString "CHORIA_TOKENS_DEFAULT_VALIDITY", Text.ofString "999999999999")]

/-- They are not contained for a late end that is wished for, nor for one that is set. -/
theorem not_contained_lateRequest : ¬Contained (lateRequest.build (sampleSurroundings []))
    ∧ (sampleSurroundings lateSetting).settings = .ok { defaultValidity := 999999999999 }
    ∧ ¬Contained (sampleRequest.build (sampleSurroundings lateSetting)) := by
  have hwished : lateRequest.build (sampleSurroundings []) = .error .outOfRange := by rfl
  have hset : sampleRequest.build (sampleSurroundings lateSetting) = .error .outOfRange := by rfl
  refine ⟨?_, by rfl, ?_⟩
  · rw [hwished]
    exact Bool.false_ne_true
  · rw [hset]
    exact Bool.false_ne_true

/-! ## The end in numbers -/

/-- The end overflows if the exact sum of the whole second that the clock shows and the span is no
represented date. -/
theorem endOverflows_iff {clock : Clock} : r.EndOverflows settings clock ↔
    (∀ d, r.validity = some d → 0 < d.micros)
      ∧ Timestamp.inRange (clock.wholeSecond.wall + r.spanMicros settings) = false := by
  refine and_congr_right fun _ => ⟨?_, .inr⟩
  rintro (⟨hnone, hcount⟩ | hrange)
  · -- So many seconds lead beyond the represented dates from each of them.
    have hspan : r.spanMicros settings = settings.defaultValidity * microsPerSecond := by
      rw [spanMicros, hnone]
    have hwall := Timestamp.inRange_iff.mp clock.wholeSecond.wall_inRange
    have hmin : -1000000 * microsPerDay < Timestamp.minWall := by decide
    have hend : Timestamp.endWall < 3000000 * microsPerDay := by decide
    rw [Duration.ofSeconds?, Duration.ofMicros?] at hcount
    simp only [ite_eq_right_iff, reduceCtorEq, imp_false] at hcount
    rw [Timestamp.inRange, Bool.and_eq_false_iff, decide_eq_false_iff_not, decide_eq_false_iff_not,
      hspan]
    have hday : microsPerDay = 86400000000 := by rfl
    rw [hday, Duration.maxDays] at hcount
    rw [hday] at hmin hend
    omega
  · exact hrange

end BuildRequest

end FleetToken
