import FleetToken.Proofs.Claims.Purpose
import FleetToken.Proofs.Json.RoundTrip
import FleetToken.Proofs.Token.Inspectable

/-!
# Routing by inspection

A token is routed by the purpose that its payload states and by the algorithm that its header names.
Both questions have an answer for every text and for any bytes, and each of them looks at one
segment only. Where the token can be inspected as a whole, the answers are those of its view.

## Main definitions

* `Text.StatesPurpose`: the second segment states a purpose.
* `Text.NamesAlgorithm`: the first segment names an algorithm.

## Main results

* `statedPurpose_eq_ok_iff`: the answer is a known purpose if the second segment states it.
* `namedAlgorithm_eq_ok_iff`: the answer is a name if the first segment names it.
* `TokenInput.routed`: both answers for every token.
-/

namespace FleetToken

namespace Text

/-- The token has three segments, and the second one writes an object whose purpose is this one's
name. What the first segment is does not matter. -/
def StatesPurpose (token : Text) (purpose : Purpose) : Prop :=
  ∃ header payload members, token.HasSegments header payload ∧ payload.Holds members
    ∧ members.get? (Text.ofString "purpose") = some (.string purpose.text)

/-- The token has three segments, and the first one writes an object whose algorithm is this text.
What the second segment is does not matter. -/
def NamesAlgorithm (token name : Text) : Prop :=
  ∃ header payload members, token.HasSegments header payload ∧ header.Holds members
    ∧ CompactToken.entry? members "alg" = some (.string name)

end Text

/-! ## The two questions -/

section Answers

variable {token : Text}

/-- A header is inspected if the first segment holds it. -/
theorem inspectHeader_eq_ok_iff {members : Members} : inspectHeader token = .ok members ↔
    ∃ header payload, token.HasSegments header payload ∧ header.Holds members := by
  simp only [inspectHeader, bind_eq_ok_iff, inspectSegment_eq_ok_iff, Prod.exists,
    firstSegments_eq_ok_iff]

/-- A payload is inspected if the second segment holds it. -/
theorem inspectPayload_eq_ok_iff {members : Members} : inspectPayload token = .ok members ↔
    ∃ header payload, token.HasSegments header payload ∧ payload.Holds members := by
  simp only [inspectPayload, bind_eq_ok_iff, inspectSegment_eq_ok_iff, Prod.exists,
    firstSegments_eq_ok_iff]

/-- The default stands for what a token is refused for. -/
theorem orDefault_eq_ok_iff {α : Type} {default a : α} {answer : Except Failure α} :
    orDefault default answer = .ok a ↔ answer = .ok a
      ∨ a = default ∧ ∃ fault, answer = .error (.token (.invalidToken fault)) := by
  rw [orDefault.eq_def]
  split
  · simp [eq_comm]
  · rename_i hother
    constructor
    · exact .inl
    · rintro (h | ⟨-, fault, h⟩)
      · exact h
      · exact absurd h (hother fault)

/-- The default makes an answer of every refusal. -/
theorem exists_orDefault {α : Type} (default : α) {answer : Except Failure α}
    (h : ∀ failure, answer = .error failure → ∃ fault, failure = .token (.invalidToken fault)) :
    ∃ a, orDefault default answer = .ok a := by
  cases answer with
  | ok a => exact ⟨a, rfl⟩
  | error failure =>
    obtain ⟨fault, rfl⟩ := h failure rfl
    exact ⟨default, rfl⟩

/-- All that can be wrong with the segments or with one of them makes the token invalid. -/
theorem invalidToken_of_segments {select : Text × Text → Text} {failure : Failure}
    (h : (firstSegments token >>= fun segments => inspectSegment (select segments))
      = .error failure) : ∃ fault, failure = .token (.invalidToken fault) := by
  rcases bind_eq_error_iff.mp h with hfirst | ⟨segments, -, hsegment⟩
  · exact ⟨_, (firstSegments_eq_error_iff.mp hfirst).1⟩
  · exact invalidToken_of_inspectSegment hsegment

/-- The question for the purpose has an answer. -/
theorem exists_statedPurpose (token : Text) : ∃ purpose, statedPurpose token = .ok purpose := by
  refine exists_orDefault _ fun failure h => ?_
  rcases bind_eq_error_iff.mp h with hpayload | ⟨payload, -, hpurpose⟩
  · exact invalidToken_of_segments hpayload
  · exact absurd hpurpose (by simp)

/-- The question for the algorithm has an answer. -/
theorem exists_namedAlgorithm (token : Text) : ∃ name, namedAlgorithm token = .ok name :=
  exists_orDefault _ fun _ h => invalidToken_of_segments (map_eq_error_iff.mp h)

/-- The purpose is a known one if and only if the payload states it. -/
theorem statedPurpose_eq_ok_iff {purpose : Purpose} (hknown : purpose ≠ .unknown) :
    statedPurpose token = .ok purpose ↔ token.StatesPurpose purpose := by
  simp only [statedPurpose, orDefault_eq_ok_iff, hknown, false_and, or_false, bind_eq_ok_iff,
    inspectPurpose_unlimited, Except.ok.injEq, Purpose.ofMembers_eq_iff hknown,
    inspectPayload_eq_ok_iff]
  constructor
  · rintro ⟨members, ⟨header, payload, hsegments, hholds⟩, hpurpose⟩
    exact ⟨header, payload, members, hsegments, hholds, hpurpose⟩
  · rintro ⟨header, payload, members, hsegments, hholds, hpurpose⟩
    exact ⟨members, ⟨header, payload, hsegments, hholds⟩, hpurpose⟩

/-- The algorithm has a name if and only if the header names it. -/
theorem namedAlgorithm_eq_ok_iff {name : Text} (hname : name ≠ []) :
    namedAlgorithm token = .ok name ↔ token.NamesAlgorithm name := by
  -- In a header the name is that of a text, as all else counts as the empty name.
  have hstated (members : Members) : statedAlgorithm members = name ↔
      CompactToken.entry? members "alg" = some (.string name) := by
    rw [statedAlgorithm]
    cases CompactToken.entry? members "alg" with
    | none => simp [hname.symm]
    | some value => cases value <;> simp [Json.string?, hname.symm]
  simp only [namedAlgorithm, orDefault_eq_ok_iff, hname, false_and, or_false, map_eq_ok_iff,
    hstated, inspectHeader_eq_ok_iff]
  constructor
  · rintro ⟨members, ⟨header, payload, hsegments, hholds⟩, halg⟩
    exact ⟨header, payload, members, hsegments, hholds, halg⟩
  · rintro ⟨header, payload, members, hsegments, hholds, halg⟩
    exact ⟨members, ⟨header, payload, hsegments, hholds⟩, halg⟩

/-- Where a token shows a view, the answers are those of the view. -/
theorem answers_of_ofText {view : InspectedToken} (h : InspectedToken.ofText token = .ok view) :
    statedPurpose token = .ok view.purpose ∧ namedAlgorithm token = .ok view.algorithm := by
  obtain ⟨header, hheader, h⟩ := bind_eq_ok_iff.mp h
  obtain ⟨payload, hpayload, h⟩ := bind_eq_ok_iff.mp h
  obtain ⟨purpose, hpurpose, h⟩ := bind_eq_ok_iff.mp h
  obtain rfl := Except.ok.inj h
  refine ⟨orDefault_eq_ok_iff.mpr (.inl ?_), orDefault_eq_ok_iff.mpr (.inl ?_)⟩
  · rw [hpayload, ok_bind, hpurpose]
  · rw [hheader]
    rfl

end Answers

/-! ## Routing -/

namespace TokenInput

/-- Both questions about a token are answered, whatever text or bytes it is. The answers are those
of the view where inspection gives one. The purpose is known exactly if the payload segment states
it, and the algorithm has a name exactly if the header segment names it. -/
theorem routed (token : TokenInput) (h : token ≠ .other) :
    ∃ text purpose algorithm, token.text? = some text ∧ token.purpose = .ok purpose
      ∧ token.signingAlgorithm = .ok algorithm
      ∧ (∀ view, InspectedToken.ofInput token = .ok view →
        purpose = view.purpose ∧ algorithm = view.algorithm)
      ∧ (purpose ≠ .unknown ↔ ∃ known, known ≠ .unknown ∧ text.StatesPurpose known)
      ∧ (∀ known, known ≠ .unknown → (purpose = known ↔ text.StatesPurpose known))
      ∧ (algorithm ≠ [] ↔ ∃ name, name ≠ [] ∧ text.NamesAlgorithm name)
      ∧ ∀ name, name ≠ [] → (algorithm = name ↔ text.NamesAlgorithm name) := by
  obtain ⟨text, htext⟩ := exists_text? h
  obtain ⟨stated, hstated⟩ := exists_statedPurpose text
  obtain ⟨named, hnamed⟩ := exists_namedAlgorithm text
  -- The answer is the only one, so that it can be compared with what the segments say.
  have hpurpose (known : Purpose) (hknown : known ≠ .unknown) :
      stated = known ↔ text.StatesPurpose known := by
    rw [← statedPurpose_eq_ok_iff hknown, hstated, Except.ok.injEq]
  have hname (name : Text) (hname : name ≠ []) : named = name ↔ text.NamesAlgorithm name := by
    rw [← namedAlgorithm_eq_ok_iff hname, hnamed, Except.ok.injEq]
  refine ⟨text, stated, named, htext, ?_, ?_, ?_, ?_, hpurpose, ?_, hname⟩
  · rw [purpose, htext]
    exact hstated
  · rw [signingAlgorithm, htext]
    exact hnamed
  · intro view hview
    rw [InspectedToken.ofInput, htext] at hview
    obtain ⟨hsame, hsameName⟩ := answers_of_ofText hview
    exact ⟨Except.ok.inj (hstated.symm.trans hsame), Except.ok.inj (hnamed.symm.trans hsameName)⟩
  · constructor
    · intro hknown
      exact ⟨_, hknown, (hpurpose _ hknown).mp rfl⟩
    · rintro ⟨known, hknown, hstates⟩
      rwa [(hpurpose known hknown).mpr hstates]
  · constructor
    · intro hnotEmpty
      exact ⟨_, hnotEmpty, (hname _ hnotEmpty).mp rfl⟩
    · rintro ⟨name, hnotEmpty, hnames⟩
      rwa [(hname name hnotEmpty).mpr hnames]

/-- A token without a header that states a purpose, and a token without a payload that names an
algorithm. -/
theorem routed_emptySegments :
    text (Text.ofString ".eyJwdXJwb3NlIjoiY2hvcmlhX3NlcnZlciJ9.") ≠ .other
    ∧ purpose (.text (Text.ofString ".eyJwdXJwb3NlIjoiY2hvcmlhX3NlcnZlciJ9.")) = .ok .server
    ∧ bytes (Text.ofString "eyJhbGciOiJFZERTQSJ9..").toUtf8 ≠ .other
    ∧ signingAlgorithm (.bytes (Text.ofString "eyJhbGciOiJFZERTQSJ9..").toUtf8)
      = .ok (Text.ofString "EdDSA") := by
  have hserver := Json.lossless_singleton "purpose" (Json.lossless_ofString "choria_server")
  have hedwards := Json.lossless_singleton "alg" (Json.lossless_ofString "EdDSA")
  have htext : text (Text.ofString ".eyJwdXJwb3NlIjoiY2hvcmlhX3NlcnZlciJ9.") ≠ .other := by
    simp
  have hbytes : bytes (Text.ofString "eyJhbGciOiJFZERTQSJ9..").toUtf8 ≠ .other := by
    simp
  refine ⟨htext, ?_, hbytes, ?_⟩
  · obtain ⟨token, found, -, htoken, hpurpose, -, -, -, hknown, -⟩ := routed _ htext
    obtain rfl := Option.some.inj htoken
    rw [hpurpose, (hknown .server (by decide)).mpr ⟨[],
      Text.ofString "eyJwdXJwb3NlIjoiY2hvcmlhX3NlcnZlciJ9", _, ⟨[], by decide +kernel⟩,
      ⟨by decide, _, by decide +kernel, Json.decode_compact hserver⟩, rfl⟩]
  · obtain ⟨token, -, found, htoken, -, halgorithm, -, -, -, -, hnamed⟩ := routed _ hbytes
    obtain rfl := Option.some.inj htoken
    rw [halgorithm, (hnamed (Text.ofString "EdDSA") (by decide)).mpr
      ⟨Text.ofString "eyJhbGciOiJFZERTQSJ9", [], _, ⟨[], by decide +kernel⟩,
        ⟨by decide, _, by decide +kernel, Json.decode_compact hedwards⟩, rfl⟩]

end TokenInput

end FleetToken
