import FleetToken.Claims.Decoding
import FleetToken.Proofs.Claims.Reading
import FleetToken.Proofs.Json.Room

/-!
# Purposes in payloads

A known purpose is stated by its text and by nothing else. Claims take the purpose that the payload
states, and where it states none they take that of their kind. A known purpose is found in whatever
room the stack has left; any other value takes room for its levels.

## Main definitions

* `Purpose.taken`: the purpose that claims of a kind take from a payload.

## Main results

* `Purpose.ofMembers_eq_iff`: a known purpose is stated by its text and by nothing else.
* `Claims.decodeAs_eq_error_stackExhausted_iff`: when the stack ends the decoding.
* `Claims.decodeAs_eq_ok_iff`: the payloads that claims of a kind are decoded from.
-/

namespace FleetToken

/-! ## Stated purposes -/

/-- The text of a purpose is read as this purpose. -/
theorem Purpose.ofText_text (purpose : Purpose) : ofText purpose.text = purpose := by
  cases purpose with
  | unknown => rfl
  | provisioning => rfl
  | client => rfl
  | server => rfl

/-- No other text is read as a known purpose. -/
theorem Purpose.eq_text_of_ofText {t : Text} {purpose : Purpose} (hknown : purpose ≠ .unknown)
    (h : ofText t = purpose) : t = purpose.text := by
  rw [ofText] at h
  split at h
  · rw [← h, ‹t = provisioning.text›]
  split at h
  · rw [← h, ‹t = client.text›]
  split at h
  · rw [← h, ‹t = server.text›]
  · exact absurd h.symm hknown

/-- A value is a known purpose if and only if it is the text of it. -/
theorem Purpose.ofJson_eq_iff {value : Json} {purpose : Purpose} (hknown : purpose ≠ .unknown) :
    ofJson value = purpose ↔ value = .string purpose.text := by
  constructor
  · intro h
    -- Anything but a text is an unknown purpose.
    cases value with
    | string t => rw [eq_text_of_ofText hknown h]
    | _ => exact absurd h.symm hknown
  · rintro rfl
    exact ofText_text purpose

/-- A known purpose is stated by its text and by nothing else. -/
theorem Purpose.ofMembers_eq_iff {members : Members} {purpose : Purpose}
    (hknown : purpose ≠ .unknown) :
    ofMembers members = purpose ↔
      members.get? (Text.ofString "purpose") = some (.string purpose.text) := by
  rw [ofMembers]
  cases hvalue : members.get? (Text.ofString "purpose") with
  | none => simp [Ne.symm hknown]
  | some value => simp [ofJson_eq_iff hknown]

/-! ## Room for purposes -/

/-- Enough room holds any value. -/
@[simp]
theorem Purpose.lookup?_unlimited (value : Json) : lookup? value .unlimited = some (ofJson value) :=
  if_pos (Bool.or_true _)

/-- In enough room the purpose is found that the members state. -/
@[simp]
theorem Purpose.find?_unlimited (members : Members) :
    find? members .unlimited = some (ofMembers members) := by
  rw [find?, lookup?_unlimited, ofMembers]
  cases members.get? (Text.ofString "purpose") with
  | none => rfl
  | some value => rfl

/-- Whatever room there is, no other purpose is found. -/
theorem Purpose.eq_ofMembers_of_find? {members : Members} {room : Room} {purpose : Purpose}
    (h : find? members room = some purpose) : purpose = ofMembers members := by
  rw [find?, lookup?, Option.ite_none_right_eq_some] at h
  rw [← Option.some.inj h.2, ofMembers]
  cases members.get? (Text.ofString "purpose") with
  | none => rfl
  | some value => rfl

/-- The text of a purpose is found in any room. -/
theorem Purpose.isSome_lookup?_text (purpose : Purpose) (room : Room) :
    (lookup? (.string purpose.text) room).isSome := by
  have hlisted : isListed (.string purpose.text) = true :=
    List.any_eq_true.mpr ⟨purpose, by cases purpose <;> decide, beq_self_eq_true _⟩
  rw [lookup?, hlisted, Bool.true_or, if_pos rfl, Option.isSome_some]

namespace Claims

/-- Enough room holds any payload. -/
@[simp]
theorem hasRoom_unlimited (payload : Json) : hasRoom payload .unlimited = true := by
  cases payload with
  | object members => simp [hasRoom]
  | _ => rfl

/-- A payload that states a purpose by its text, or none, has room. -/
theorem hasRoom_of_stated {payload : Members} {purpose : Purpose} (room : Room)
    (h : payload.get? (Text.ofString "purpose") = none
      ∨ payload.get? (Text.ofString "purpose") = some (.string purpose.text)) :
    hasRoom (.object payload) room = true := by
  rw [hasRoom]
  rcases h with h | h
  · simp [h]
  · simp [h, Purpose.isSome_lookup?_text]

/-- With enough room the claims of a kind are the validated ones, if the purpose is right. -/
theorem decodeAs_eq (kind : ClaimsType) (payload : Json) : decodeAs kind payload =
    match validate kind payload with
    | .issues found => .error (.token (.invalidClaims (.payload kind found)))
    | .ok claims =>
      if kind.purpose ≠ .unknown ∧ claims.envelope.purpose ≠ kind.purpose then
        .error (.token (.invalidClaims (.wrongPurpose kind.purpose)))
      else .ok claims := by
  rw [decodeAs, hasRoom_unlimited]
  rfl

/-- With room for the purpose the outcome is that of enough room. -/
theorem decodeAs_eq_of_hasRoom {payload : Json} {room : Room} (h : hasRoom payload room = true)
    (kind : ClaimsType) : decodeAs kind payload room = decodeAs kind payload := by
  simp only [decodeAs, h, hasRoom_unlimited]

/-- The stack ends the decoding exactly if it has no room for the purpose. -/
theorem decodeAs_eq_error_stackExhausted_iff {kind : ClaimsType} {payload : Json} {room : Room} :
    decodeAs kind payload room = .error .stackExhausted ↔ hasRoom payload room = false := by
  rw [decodeAs]
  cases hroom : hasRoom payload room with
  | false => simp
  | true =>
    simp only [Bool.not_true, Bool.false_eq_true, ↓reduceIte, Bool.true_eq_false, iff_false]
    split
    · simp
    · split
      · simp
      · simp

end Claims

/-! ## Purposes of claims -/

/-- Each kind but the plain one has a known purpose. -/
theorem ClaimsType.purpose_ne_unknown {kind : ClaimsType} (h : kind ≠ .standard) :
    kind.purpose ≠ .unknown := by
  cases kind with
  | standard => exact absurd rfl h
  | provisioning => decide
  | client => decide
  | server => decide

/-- The purpose that claims of a kind take from a payload: the stated one, or else that of the
kind. -/
def Purpose.taken (kind : ClaimsType) (payload : Members) : Purpose :=
  match payload.get? (Text.ofString "purpose") with
  | some value => ofJson value
  | none => kind.purpose

/-- Claims take the purpose of their kind if the payload states it, or states none. -/
theorem Purpose.taken_eq_iff {kind : ClaimsType} {payload : Members}
    (hkind : kind.purpose ≠ .unknown) :
    taken kind payload = kind.purpose ↔ payload.get? (Text.ofString "purpose") = none
      ∨ payload.get? (Text.ofString "purpose") = some (.string kind.purpose.text) := by
  rw [taken]
  cases hvalue : payload.get? (Text.ofString "purpose") with
  | none => simp
  | some value => simp [ofJson_eq_iff hkind]

/-- Claims of a kind take their purpose from the payload. -/
theorem Claims.purpose_of_ofMembers {kind : ClaimsType} {payload : Members} {claims : Claims}
    (h : ofMembers kind payload = .ok claims) :
    claims.envelope.purpose = Purpose.taken kind payload := by
  have henvelope := (envelope_of_ofMembers h).2
  have hfield := (Reading.envelope_eq_ok_iff.mp henvelope).1
  -- The wire name of a purpose is its plain name, so one lookup decides.
  have hentry : Reading.member? payload .purpose = payload.get? (Text.ofString "purpose") :=
    Option.or_self
  rw [Reading.field_eq_ok_iff, hentry] at hfield
  rcases hfield with ⟨value, hvalue, hpurpose⟩ | ⟨hnone, hpurpose⟩
  · rw [Purpose.taken, hvalue, ← Checked.ok.inj hpurpose]
  · rw [Purpose.taken, hnone, ← hpurpose]

/-- The payloads that claims of a kind with a purpose are decoded from, in any room: they fit the
kind, and they state its purpose or none. -/
theorem Claims.decodeAs_eq_ok_iff {kind : ClaimsType} {payload : Members} {claims : Claims}
    {room : Room} (hkind : kind.purpose ≠ .unknown) :
    decodeAs kind (.object payload) room = .ok claims ↔ ofMembers kind payload = .ok claims
      ∧ (payload.get? (Text.ofString "purpose") = none
        ∨ payload.get? (Text.ofString "purpose") = some (.string kind.purpose.text)) := by
  cases hroom : hasRoom (.object payload) room with
  | false =>
    have hexhausted : decodeAs kind (.object payload) room = .error .stackExhausted :=
      decodeAs_eq_error_stackExhausted_iff.mpr hroom
    simp only [hexhausted, reduceCtorEq, false_iff]
    rintro ⟨-, hstated⟩
    rw [hasRoom_of_stated room hstated] at hroom
    contradiction
  | true =>
    rw [← Purpose.taken_eq_iff hkind, decodeAs, validate, hroom]
    cases hmembers : ofMembers kind payload with
    | issues found => simp
    | ok found =>
      -- The check compares the purpose that was taken with that of the kind.
      have hpurpose := purpose_of_ofMembers hmembers
      simp only [Bool.not_true, Bool.false_eq_true, ↓reduceIte, hkind, ne_eq, not_false_eq_true,
        true_and, hpurpose, Checked.ok.injEq, ite_not]
      split
      · rename_i htaken
        simp [htaken]
      · rename_i htaken
        simp [htaken]

end FleetToken
