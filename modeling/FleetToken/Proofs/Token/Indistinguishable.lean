import FleetToken.Connection
import FleetToken.Proofs.Text.Blank
import FleetToken.Proofs.Text.Utf8
import FleetToken.Proofs.Token.Inspectable
import FleetToken.Proofs.Token.Segments

/-!
# What inspection does not see

Inspection looks at the first two segments of a token and at nothing else. It does not tell two
tokens apart that differ in their third segments, in blanks around them, or in being handed in as
text or as bytes. Neither does what is built on inspection.

## Main definitions

* `InspectedAlike`: inspection does not tell two tokens apart.

## Main results

* `inspectedAlike_of_firstSegments`: the first two segments decide everything.
* `firstSegments_join`: the first two segments of a text that is put together from three.
* `inspectedAlike_unseen`: the differences that inspection does not see.
-/

namespace FleetToken

/-- Inspection does not tell two tokens apart: the view of the token, its purpose, its algorithm and
the inbox of its connection are the same, and so is what goes wrong with each of them, however much
room there is on the stack. -/
structure InspectedAlike (token token' : TokenInput) : Prop where
  /-- The views are the same. -/
  view_eq : ∀ stack, InspectedToken.ofInput token stack = InspectedToken.ofInput token' stack
  /-- The purposes are the same. -/
  purpose_eq : ∀ stack, token.purpose stack = token'.purpose stack
  /-- The algorithms are the same. -/
  algorithm_eq : ∀ stack, token.signingAlgorithm stack = token'.signingAlgorithm stack
  /-- The inboxes in every collective are the same. -/
  inbox_eq : ∀ collective seedFile stack,
    (Connection.ofToken token collective seedFile stack).map Connection.inbox
      = (Connection.ofToken token' collective seedFile stack).map Connection.inbox

/-! ## The segments decide -/

/-- The inbox of a connection is that of the identity in the token. -/
theorem map_inbox_ofToken (token : TokenInput) (collective seedFile : Text) (stack : Stack) :
    (Connection.ofToken token collective seedFile stack).map Connection.inbox = (do
      if collective = [] then throw (.token (.missingParameter .collective))
      if seedFile = [] then throw (.token (.missingParameter .seedFile))
      inboxFor collective (← statedIdentity token stack)) := by
  rw [Connection.ofToken]
  split
  · rfl
  split
  · rfl
  cases statedIdentity token stack with
  | error failure => rfl
  | ok identity =>
    simp only [ok_bind]
    cases inboxFor collective identity <;> rfl

/-- The first two segments decide what inspection says. -/
theorem inspectedAlike_of_firstSegments {token token' : TokenInput} {t t' : Text}
    (ht : token.text? = some t) (ht' : token'.text? = some t')
    (h : firstSegments t = firstSegments t') : InspectedAlike token token' := by
  have hview (stack : Stack) :
      InspectedToken.ofInput token stack = InspectedToken.ofInput token' stack := by
    rw [InspectedToken.ofInput, InspectedToken.ofInput, ht, ht']
    simp only [InspectedToken.ofText_eq, h]
  constructor
  case view_eq => exact hview
  case purpose_eq =>
    intro stack
    rw [TokenInput.purpose, TokenInput.purpose, ht, ht']
    simp only [statedPurpose, inspectPayload, h]
  case algorithm_eq =>
    intro stack
    rw [TokenInput.signingAlgorithm, TokenInput.signingAlgorithm, ht, ht']
    simp only [namedAlgorithm, inspectHeader, h]
  -- The identity in the token is taken from its view.
  case inbox_eq =>
    intro collective seedFile stack
    rw [map_inbox_ofToken, map_inbox_ofToken, statedIdentity, statedIdentity, hview]

/-! ## Third segments and blanks -/

/-- The first two segments of a text that is put together from three. The header loses the blanks
before it; those before a dot are part of a segment. -/
theorem firstSegments_join {header payload signature : Text}
    (hheader : CodePoint.ofChar '.' ∉ header) (hpayload : CodePoint.ofChar '.' ∉ payload)
    (hsignature : CodePoint.ofChar '.' ∉ signature) :
    firstSegments (Text.join (CodePoint.ofChar '.') [header, payload, signature])
      = .ok (Text.trimStartBy CodePoint.isBlank header, payload) := by
  have hdot : (CodePoint.ofChar '.').isBlank = false := rfl
  have hjoin : Text.join (CodePoint.ofChar '.') [header, payload, signature]
      = header ++ CodePoint.ofChar '.' :: (payload ++ CodePoint.ofChar '.' :: signature) := rfl
  have hstart : CodePoint.ofChar '.' ∉ Text.trimStartBy CodePoint.isBlank header :=
    fun hmem => hheader (Text.mem_of_mem_trimStartBy hmem)
  have hend : CodePoint.ofChar '.' ∉ Text.trimEndBy CodePoint.isBlank signature :=
    fun hmem => hsignature (Text.mem_of_mem_trimEndBy hmem)
  refine firstSegments_eq_ok_iff.mpr ⟨Text.trimEndBy CodePoint.isBlank signature, ?_⟩
  rw [hjoin, Text.trim, Text.trimBy_append_cons hdot, Text.trimEndBy_append_cons hdot,
    Text.split_append _ hstart, Text.split_append _ hpayload, Text.split_of_notMem hend]

/-- Blanks around a token are not seen. -/
theorem firstSegments_append_append {front back : Text} (hfront : ∀ c ∈ front, c.isBlank = true)
    (hback : ∀ c ∈ back, c.isBlank = true) (token : Text) :
    firstSegments (front ++ token ++ back) = firstSegments token := by
  have htrim : (front ++ token ++ back).trim = token.trim :=
    Text.trimBy_append_append hfront hback token
  rw [firstSegments.eq_def, firstSegments.eq_def, htrim]

/-- Inspection does not see the third segment of a token, nor blanks before and behind it, nor
whether a text without surrogates is handed in as it is or as its bytes. -/
theorem inspectedAlike_unseen :
    (∀ header payload signature signature' : Text, CodePoint.ofChar '.' ∉ header →
      CodePoint.ofChar '.' ∉ payload → CodePoint.ofChar '.' ∉ signature →
      CodePoint.ofChar '.' ∉ signature' →
      InspectedAlike (.text (Text.join (CodePoint.ofChar '.') [header, payload, signature]))
        (.text (Text.join (CodePoint.ofChar '.') [header, payload, signature'])))
    ∧ (∀ front token back : Text, (∀ c ∈ front, c.isBlank = true) →
      (∀ c ∈ back, c.isBlank = true) →
      InspectedAlike (.text (front ++ token ++ back)) (.text token))
    ∧ (∀ token : Text, token.WellFormed →
      InspectedAlike (.bytes token.toUtf8) (.text token)) := by
  refine ⟨?_, ?_, ?_⟩
  · intro header payload signature signature' hheader hpayload hsignature hsignature'
    refine inspectedAlike_of_firstSegments rfl rfl ?_
    rw [firstSegments_join hheader hpayload hsignature,
      firstSegments_join hheader hpayload hsignature']
  · intro front token back hfront hback
    exact inspectedAlike_of_firstSegments rfl rfl (firstSegments_append_append hfront hback token)
  · intro token htoken
    refine inspectedAlike_of_firstSegments ?_ rfl rfl
    rw [TokenInput.text?, Text.ofUtf8Replacing_toUtf8 htoken]

/-- A token without a signature and with one that is not even Base64, a token on a line of its own,
and a token with a letter beyond ASCII. -/
theorem inspectedAlike_emptyObjects :
    InspectedAlike
        (.text (Text.join (CodePoint.ofChar '.') [Text.ofString "e30", Text.ofString "e30", []]))
        (.text (Text.join (CodePoint.ofChar '.')
          [Text.ofString "e30", Text.ofString "e30", Text.ofString "a signature"]))
    ∧ InspectedAlike (.text ([] ++ Text.ofString "e30.e30." ++ Text.ofString "\n"))
        (.text (Text.ofString "e30.e30."))
    ∧ InspectedAlike (.bytes (Text.ofString "e30.e30.é").toUtf8)
        (.text (Text.ofString "e30.e30.é")) := by
  obtain ⟨hsignature, hblanks, hbytes⟩ := inspectedAlike_unseen
  refine ⟨?_, ?_, ?_⟩
  · exact hsignature _ _ _ _ (by decide) (by decide) (by decide) (by decide)
  · exact hblanks [] _ _ (by decide) (by decide)
  · exact hbytes _ (by decide)

end FleetToken
