import FleetToken.Proofs.Bytes.Base64
import FleetToken.Proofs.Json.Room
import FleetToken.Proofs.Outcome
import FleetToken.Proofs.Text.Ascii
import FleetToken.Proofs.Text.Pieces
import FleetToken.Token.Compact

/-!
# The segments of a token

A token is read strictly if and only if it is three segments in Base64 with dots between them,
and its header holds together. Such a token is ASCII, and has no other dots.

## Main definitions

* `tokenBytes`: three segments with dots between them.
* `bracketToken`: a token whose header is nothing but brackets that open.
* `CompactToken.Writes`: the parts of a token are what its three segments write.

## Main results

* `CompactToken.ofBytes_eq_ok_iff`: the bytes that are read as a token.
* `CompactToken.ofInput_text_eq_ok_iff`: the texts that are read as a token.
* `CompactToken.Writes.split_eq`: the three segments are the pieces between the dots.
-/

namespace FleetToken

/-- The bytes of a token. A text with a lone surrogate has none. -/
def TokenInput.bytes? : TokenInput → Option Bytes
  | .text t => t.encodeUtf8?
  | .bytes b => some b
  | .other => none

/-- Three segments with dots between them. -/
def tokenBytes (header payload signature : Bytes) : Bytes :=
  header ++ segmentDot :: (payload ++ segmentDot :: signature)

/-- A token with segments in ASCII is in ASCII. -/
theorem tokenBytes_lt {header payload signature : Bytes} (hheader : ∀ b ∈ header, b < 0x80)
    (hpayload : ∀ b ∈ payload, b < 0x80) (hsignature : ∀ b ∈ signature, b < 0x80) :
    ∀ b ∈ tokenBytes header payload signature, b < 0x80 := by
  intro b hb
  simp only [tokenBytes, List.mem_append, List.mem_cons] at hb
  rcases hb with hb | rfl | hb | rfl | hb
  · exact hheader b hb
  · decide
  · exact hpayload b hb
  · decide
  · exact hsignature b hb

/-! ## Objects in tokens -/

namespace Json

variable {bytes : Bytes} {room : Room} {report : Cause → InvalidTokenFault}
  {notObject : InvalidTokenFault}

/-- A document is read as an object if it is one. -/
theorem readObject_eq_ok_iff {members : Members} :
    readObject bytes room report notObject = .ok members
      ↔ decode bytes room = .ok (.object members) := by
  rw [readObject]
  split
  · rename_i fault hfault
    simp [hfault]
  · rename_i found hfound
    simp [hfound]
  -- Any other JSON value is refused, and is no object.
  · rename_i value hother hvalue
    simp only [reduceCtorEq, hvalue, Except.ok.injEq, false_iff]
    rintro rfl
    exact hother members rfl

/-- What is no object is reported of the token for one of two reasons. -/
theorem readObject_eq_error_iff {fault : InvalidTokenFault} :
    readObject bytes room report notObject = .error (.token (.invalidToken fault)) ↔
      (∃ found cause, decode bytes room = .error found ∧ found.cause? = some cause
        ∧ fault = report cause)
      ∨ fault = notObject ∧ ∃ value, decode bytes room = .ok value
        ∧ ∀ members, value ≠ .object members := by
  rw [readObject]
  cases decode bytes room with
  | error found =>
    simp only [Fault.failure]
    cases hcause : found.cause? <;> simp [hcause, eq_comm]
  | ok value => cases value <;> simp [eq_comm]

/-- The stack is exhausted if the document is nested too deeply. -/
theorem readObject_eq_stackExhausted_iff :
    readObject bytes room report notObject = .error .stackExhausted
      ↔ decode bytes room = .error .tooDeep := by
  rw [readObject]
  cases decode bytes room with
  | error found => cases found <;> simp [Fault.failure, Fault.cause?]
  | ok value => cases value <;> simp

/-- Nothing else can be wrong with a document. -/
theorem failure_of_readObject {failure : Failure}
    (h : readObject bytes room report notObject = .error failure) :
    (∃ fault, failure = .token (.invalidToken fault)) ∨ failure = .stackExhausted := by
  rw [readObject] at h
  split at h
  · rename_i fault hfault
    obtain rfl := Except.error.inj h
    cases fault with
    | tooDeep => exact .inr rfl
    | _ => exact .inl ⟨_, rfl⟩
  · contradiction
  · exact .inl ⟨_, (Except.error.inj h).symm⟩

/-- With little room the object is the one that is found with enough. -/
theorem readObject_eqUnless (bytes : Bytes) (room : Room) (report : Cause → InvalidTokenFault)
    (notObject : InvalidTokenFault) :
    EqUnless .stackExhausted (readObject bytes room report notObject)
      (readObject bytes .unlimited report notObject) := by
  rcases decode_eqUnless (Room.le_unlimited room) bytes with hdeep | hsame
  · exact .inl (readObject_eq_stackExhausted_iff.mpr hdeep)
  · rw [readObject, hsame, ← readObject]
    exact .refl _ _

end Json

/-! ## Cutting at dots -/

namespace Bytes

/-- Bytes are cut at the first separator. -/
theorem cut?_singleton {sep : UInt8} {front rest : Bytes} (h : sep ∉ front) :
    cut? [sep] (front ++ sep :: rest) = some (front, rest) := by
  induction front with
  | nil => simp [cut?, after?]
  | cons b front ih =>
    obtain ⟨hne, hfront⟩ := not_or.mp (List.mem_cons.not.mp h)
    simp [cut?, after?, hne, ih hfront]

/-- The front of a cut is free of the separator. -/
theorem cut?_singleton_eq_some {sep : UInt8} {bytes front rest : Bytes}
    (h : cut? [sep] bytes = some (front, rest)) : bytes = front ++ sep :: rest ∧ sep ∉ front := by
  -- Without the separator there would be nothing to cut.
  have hmem : sep ∈ bytes := by
    by_contra hnot
    have hnone : cut? [sep] bytes = none := by
      clear h
      induction bytes with
      | nil => rfl
      | cons b bytes ih =>
        obtain ⟨hne, hrest⟩ := not_or.mp (List.mem_cons.not.mp hnot)
        simp [cut?, after?, hne, ih hrest]
    rw [hnone] at h
    contradiction
  obtain ⟨before, after, rfl, hbefore⟩ := List.eq_append_cons_of_mem hmem
  -- Cut at its first separator, the list gives the parts that were found.
  rw [cut?_singleton hbefore] at h
  obtain ⟨rfl, rfl⟩ := Prod.mk.inj (Option.some.inj h)
  exact ⟨rfl, hbefore⟩

end Bytes

namespace CompactToken

/-- What stands behind the last dot is the part without dots at the end. -/
theorem lastSegment {payload signature : Bytes} (h : segmentDot ∉ signature) :
    ((payload ++ segmentDot :: signature).reverse.takeWhile (· ≠ segmentDot)).reverse
      = signature := by
  have hall : ∀ b ∈ signature.reverse, decide (b ≠ segmentDot) = true := by
    intro b hb
    rw [decide_eq_true_eq]
    rintro rfl
    exact h (List.mem_reverse.mp hb)
  -- From behind, the part comes first and the dot ends it.
  rw [List.reverse_append, List.reverse_cons, List.append_assoc,
    List.takeWhile_append_of_pos hall]
  simp

/-- Three segments are taken apart at the first dot and the last. -/
theorem segments?_tokenBytes {header payload signature : Bytes} (hheader : segmentDot ∉ header)
    (hsignature : segmentDot ∉ signature) :
    segments? (tokenBytes header payload signature) = some (header, payload, signature) := by
  rw [segments?, tokenBytes, Bytes.cut?_singleton hheader]
  simp only [Option.bind_eq_bind, Option.bind_some, lastSegment hsignature]
  -- The payload is what is left of the rest without the signature and its dot.
  have hlength : (payload ++ segmentDot :: signature).length - signature.length - 1
      = payload.length := by
    rw [List.length_append, List.length_cons]
    omega
  rw [if_pos (by simp), hlength, List.take_left]
  rfl

/-- What is taken apart was put together from its segments. -/
theorem segments?_eq_some {token header payload signature : Bytes}
    (h : segments? token = some (header, payload, signature)) :
    token = tokenBytes header payload signature ∧ segmentDot ∉ header
      ∧ segmentDot ∉ signature := by
  have hwhole := h
  simp only [segments?, Option.bind_eq_bind, Option.bind_eq_some_iff] at h
  obtain ⟨⟨front, rest⟩, hcut, hrest⟩ := h
  obtain ⟨rfl, hfront⟩ := Bytes.cut?_singleton_eq_some hcut
  simp only [Option.ite_none_right_eq_some] at hrest
  -- The last dot is the first one from behind.
  obtain ⟨after, before, hreverse, hafter⟩ :=
    List.eq_append_cons_of_mem (List.mem_reverse.mpr hrest.1)
  have hsplit : rest = before.reverse ++ segmentDot :: after.reverse := by
    rw [← List.reverse_reverse rest, hreverse]
    simp
  have hlast : segmentDot ∉ after.reverse := fun hmem => hafter (List.mem_reverse.mp hmem)
  subst hsplit
  have hfound : segments? (tokenBytes front before.reverse after.reverse)
      = some (front, before.reverse, after.reverse) := segments?_tokenBytes hfront hlast
  rw [tokenBytes, hwhole] at hfound
  simp only [Option.some.injEq, Prod.mk.injEq] at hfound
  obtain ⟨rfl, rfl, rfl⟩ := hfound
  exact ⟨rfl, hfront, hlast⟩

/-! ## What segments write -/

/-- The parts of a token are what its three segments write, and the header holds together. -/
structure Writes (header payload signature : Bytes) (token : CompactToken) : Prop where
  /-- The first segment writes a JSON object. -/
  header_eq : ∃ bytes, Base64.decode? .url header = some bytes
    ∧ Json.decode bytes = .ok (.object token.header)
  /-- The second segment writes the payload. -/
  payload_eq : Base64.decode? .url payload = some token.payload
  /-- The third segment writes the signature. -/
  signature_eq : Base64.decode? .url signature = some token.signature
  /-- The signature is over the first two segments as they are written. -/
  signingInput_eq : token.signingInput = header ++ segmentDot :: payload
  /-- The payload of a token that is said to be detached is empty. -/
  attached : ¬(isDetached token.header = true ∧ payload ≠ [])
  /-- The header names a key and lists critical extensions as it should. -/
  checked : checkHeader token.header = .ok ()

/-- A segment stands for the bytes that it encodes. -/
theorem segmentBytes_eq_ok_iff {segment : Segment} {written bytes : Bytes} :
    segmentBytes segment written = .ok bytes ↔ Base64.decode? .url written = some bytes := by
  rw [segmentBytes]
  split
  · rename_i found hfound
    simp [hfound]
  · rename_i hnone
    simp [hnone]

/-- A dot stands in no encoding. -/
theorem not_dot_of_decode? {written bytes : Bytes} (h : Base64.decode? .url written = some bytes) :
    segmentDot ∉ written := by
  intro hmem
  rcases Base64.mem_of_decode? h segmentDot hmem with hurl | hpad
  · exact absurd hurl (by simp [Base64.IsUrlByte, segmentDot])
  · exact absurd hpad (by decide)

/-- The bytes that are read as a token. -/
theorem ofBytes_eq_ok_iff {bytes : Bytes} {token : CompactToken} :
    ofBytes bytes = .ok token ↔ ∃ header payload signature,
      bytes = tokenBytes header payload signature ∧ Writes header payload signature token := by
  constructor
  · intro h
    rw [ofBytes.eq_def] at h
    split at h
    · simp only [throw, throwThe, MonadExceptOf.throw, reduceCtorEq] at h
    -- Each step of the reader gives one part of `Writes`.
    · rename_i header payload signature hsegments
      obtain ⟨headerBytes, hheader, h⟩ := bind_eq_ok_iff.mp h
      obtain ⟨members, hmembers, h⟩ := bind_eq_ok_iff.mp h
      split at h
      · exact absurd h (by simp [throw, throwThe, MonadExceptOf.throw])
      rename_i hattached
      simp only [bind_eq_ok_iff, mapError_eq_ok_iff] at hheader h
      obtain ⟨payloadBytes, hpayload, signatureBytes, hsignature, _, hchecked, htoken⟩ := h
      obtain rfl := Except.ok.inj htoken
      exact ⟨header, payload, signature, (segments?_eq_some hsegments).1,
        ⟨headerBytes, segmentBytes_eq_ok_iff.mp hheader, Json.readObject_eq_ok_iff.mp hmembers⟩,
        segmentBytes_eq_ok_iff.mp hpayload, segmentBytes_eq_ok_iff.mp hsignature, rfl, hattached,
        hchecked⟩
  · rintro ⟨header, payload, signature, rfl, hwrites⟩
    -- Conversely the dots stand where the reader cuts, as Base64 has none.
    obtain ⟨headerBytes, hheader, hmembers⟩ := hwrites.header_eq
    rw [ofBytes, segments?_tokenBytes (not_dot_of_decode? hheader)
      (not_dot_of_decode? hwrites.signature_eq)]
    have hread : headerMembers headerBytes .unlimited = .ok token.header :=
      Json.readObject_eq_ok_iff.mpr hmembers
    simp only [segmentBytes_eq_ok_iff.mpr hheader, hread,
      segmentBytes_eq_ok_iff.mpr hwrites.payload_eq, hwrites.checked, if_neg hwrites.attached,
      segmentBytes_eq_ok_iff.mpr hwrites.signature_eq, mapError_ok, ok_bind,
      ← hwrites.signingInput_eq]
    rfl

/-- A token that is not well-structured is invalid. -/
theorem failure_of_structure {α : Type} {x : Except StructureFault α} {failure : Failure}
    (h : x.mapError (fun fault => fault.failure) = .error failure) :
    ∃ fault, failure = .token (.invalidToken fault) := by
  obtain ⟨fault, -, rfl⟩ := mapError_eq_error_iff.mp h
  exact ⟨.malformed fault, rfl⟩

/-- What can be wrong with the bytes of a token. -/
theorem failure_of_ofBytes {bytes : Bytes} {room : Room} {failure : Failure}
    (h : ofBytes bytes room = .error failure) :
    (∃ fault, failure = .token (.invalidToken fault)) ∨ failure = .stackExhausted := by
  rw [ofBytes.eq_def] at h
  split at h
  · exact .inl ⟨_, (Except.error.inj h).symm⟩
  rcases bind_eq_error_iff.mp h with hheader | ⟨document, -, h⟩
  · exact .inl (failure_of_structure hheader)
  rcases bind_eq_error_iff.mp h with hmembers | ⟨members, -, h⟩
  · exact Json.failure_of_readObject hmembers
  split at h
  · exact .inl ⟨_, (Except.error.inj h).symm⟩
  rcases bind_eq_error_iff.mp h with hpayload | ⟨payload, -, h⟩
  · exact .inl (failure_of_structure hpayload)
  rcases bind_eq_error_iff.mp h with hsignature | ⟨signature, -, h⟩
  · exact .inl (failure_of_structure hsignature)
  rcases bind_eq_error_iff.mp h with hchecked | ⟨-, -, h⟩
  · exact .inl (failure_of_structure hchecked)
  · contradiction

/-- What can be wrong with a token as it is handed in. -/
theorem failure_of_ofInput {token : TokenInput} {room : Room} {failure : Failure}
    (h : ofInput token room = .error failure) :
    (∃ fault, failure = .token (.invalidToken fault)) ∨ failure = .stackExhausted
      ∨ failure = .unencodableText := by
  have hbytes {bytes : Bytes} (h : ofBytes bytes room = .error failure) :
      (∃ fault, failure = .token (.invalidToken fault)) ∨ failure = .stackExhausted
        ∨ failure = .unencodableText := by
    rcases failure_of_ofBytes h with hfault | hexhausted
    · exact .inl hfault
    · exact .inr (.inl hexhausted)
  rw [ofInput.eq_def] at h
  split at h
  · split at h
    · exact hbytes h
    · exact .inr (.inr (Except.error.inj h).symm)
  · exact hbytes h
  · exact .inl ⟨_, (Except.error.inj h).symm⟩

/-- Written tokens are in ASCII. -/
theorem Writes.lt {header payload signature : Bytes} {token : CompactToken}
    (h : Writes header payload signature token) :
    ∀ b ∈ tokenBytes header payload signature, b < 0x80 := by
  have hsegment {written bytes : Bytes} (hw : Base64.decode? .url written = some bytes) :
      ∀ b ∈ written, b < 0x80 := by
    intro b hb
    rcases Base64.mem_of_decode? hw b hb with hurl | rfl
    · exact hurl.lt
    · decide
  obtain ⟨headerBytes, hheader, -⟩ := h.header_eq
  exact tokenBytes_lt (hsegment hheader) (hsegment h.payload_eq) (hsegment h.signature_eq)

/-- The texts that are read as a token: they are made of the bytes of three segments. -/
theorem ofInput_text_eq_ok_iff {t : Text} {token : CompactToken} :
    ofInput (.text t) = .ok token ↔ ∃ header payload signature,
      t = Text.ofAscii (tokenBytes header payload signature)
        ∧ Writes header payload signature token := by
  constructor
  · intro h
    rw [ofInput.eq_def] at h
    simp only at h
    split at h
    · rename_i bytes hbytes
      rw [ofBytes_eq_ok_iff] at h
      obtain ⟨header, payload, signature, rfl, hwrites⟩ := h
      -- The text has an encoding, so it holds no surrogates and these are its bytes.
      have hutf8 : t.toUtf8 = tokenBytes header payload signature := by
        rw [Text.encodeUtf8?] at hbytes
        split at hbytes
        · contradiction
        · exact Option.some.inj hbytes
      refine ⟨header, payload, signature, ?_, hwrites⟩
      rw [← hutf8]
      exact Text.eq_ofAscii_of_toUtf8 (hutf8 ▸ hwrites.lt)
    · contradiction
  · rintro ⟨header, payload, signature, rfl, hwrites⟩
    rw [ofInput, Text.encodeUtf8?_ofAscii hwrites.lt]
    exact ofBytes_eq_ok_iff.mpr ⟨_, _, _, rfl, hwrites⟩

end CompactToken

/-! ## The text of a token -/

namespace Text

theorem ofAscii_tokenBytes (header payload signature : Bytes) :
    ofAscii (tokenBytes header payload signature) = ofAscii header ++ CodePoint.ofChar '.'
      :: (ofAscii payload ++ CodePoint.ofChar '.' :: ofAscii signature) := by
  simp only [ofAscii, tokenBytes, List.map_append, List.map_cons]
  rfl

theorem dot_notMem_ofAscii {bytes : Bytes} (h : segmentDot ∉ bytes) :
    CodePoint.ofChar '.' ∉ ofAscii bytes := by
  intro hmem
  obtain ⟨b, hb, hdot⟩ := List.mem_map.mp hmem
  have hlt := b.toNat_lt
  have hval := congrArg CodePoint.val hdot
  rw [CodePoint.val_ofNat (by omega), CodePoint.val_ofChar] at hval
  obtain rfl : b = segmentDot := UInt8.toNat_inj.mp hval
  exact h hb

/-- Segments that have no dots of their own are the pieces between the dots. -/
theorem split_tokenBytes {header payload signature : Bytes} (hheader : segmentDot ∉ header)
    (hpayload : segmentDot ∉ payload) (hsignature : segmentDot ∉ signature) :
    split (CodePoint.ofChar '.') (ofAscii (tokenBytes header payload signature))
      = [ofAscii header, ofAscii payload, ofAscii signature] := by
  rw [ofAscii_tokenBytes, split_append _ (dot_notMem_ofAscii hheader),
    split_append _ (dot_notMem_ofAscii hpayload),
    split_of_notMem (dot_notMem_ofAscii hsignature)]

end Text

namespace CompactToken.Writes

variable {header payload signature : Bytes} {token : CompactToken}

/-- The three segments are the pieces between the dots. -/
theorem split_eq (h : Writes header payload signature token) :
    Text.split (CodePoint.ofChar '.') (Text.ofAscii (tokenBytes header payload signature))
      = [Text.ofAscii header, Text.ofAscii payload, Text.ofAscii signature] := by
  obtain ⟨headerBytes, hheader, -⟩ := h.header_eq
  exact Text.split_tokenBytes (not_dot_of_decode? hheader) (not_dot_of_decode? h.payload_eq)
    (not_dot_of_decode? h.signature_eq)

theorem header_lt (h : Writes header payload signature token) : ∀ b ∈ header, b < 0x80 :=
  fun b hb => h.lt b (by simp [tokenBytes, hb])

theorem payload_lt (h : Writes header payload signature token) : ∀ b ∈ payload, b < 0x80 :=
  fun b hb => h.lt b (by simp [tokenBytes, hb])

theorem signature_lt (h : Writes header payload signature token) : ∀ b ∈ signature, b < 0x80 :=
  fun b hb => h.lt b (by simp [tokenBytes, hb])

/-- What is signed is the text of the first two segments and the dot between them. -/
theorem signingInput_toUtf8 (h : Writes header payload signature token) :
    (Text.ofAscii header ++ CodePoint.ofChar '.' :: Text.ofAscii payload).toUtf8
      = token.signingInput := by
  have hjoin : Text.ofAscii header ++ CodePoint.ofChar '.' :: Text.ofAscii payload
      = Text.ofAscii (header ++ segmentDot :: payload) := by
    simp only [Text.ofAscii, List.map_append, List.map_cons]
    rfl
  rw [hjoin, h.signingInput_eq, Text.toUtf8_ofAscii]
  intro b hb
  simp only [List.mem_append, List.mem_cons] at hb
  rcases hb with hb | rfl | hb
  · exact h.header_lt b hb
  · decide
  · exact h.payload_lt b hb

end CompactToken.Writes

end FleetToken
