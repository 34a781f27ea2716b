import FleetToken.Bytes.Hex
import FleetToken.Proofs.Outcome
import FleetToken.Proofs.Text.Ascii

/-!
# Hexadecimal digits read and written

Digits are read in either letter case and written in lower case. So bytes that are written are read
back, and digits that are read are written again in lower case. Nothing but gaps is lost between
them.

## Main definitions

* `hexAlphabet`: the digits.

## Main results

* `Hex.decode_encode`: bytes are read back from their digits.
* `Hex.exists_decode_of_digits`: digits are read, and written again in lower case.
* `Hex.decode_of_toAsciiLower`: digits are read in either letter case.
* `Hex.encode_of_decode`: all text that is read is digits and gaps.
-/

namespace FleetToken

/-- The hexadecimal digits, with letters of either case. -/
def hexAlphabet : Text :=
  Text.ofString "0123456789abcdefABCDEF"

namespace CodePoint

/-- A digit has the value that it writes. -/
theorem hexValue?_hexDigit : ∀ d < 16, (hexDigit d).hexValue? = some d := by
  decide

/-- All that is read as a digit is ASCII. -/
theorem lt_of_hexValue? {c : CodePoint} (h : c.hexValue?.isSome) : c.val < 0x80 := by
  by_contra hge
  have hnone : c.hexValue? = none := by
    rw [hexValue?, if_neg, if_neg, if_neg]
    all_goals
      simp only [isAsciiDigit, Bool.and_eq_true, decide_eq_true_eq]
      omega
  rw [hnone] at h
  contradiction

/-- The digits that are read are those of the alphabet. -/
theorem isSome_hexValue?_iff {c : CodePoint} : c.hexValue?.isSome ↔ c ∈ hexAlphabet :=
  iff_mem_alphabet (p := fun c => c.hexValue?.isSome) (by decide +kernel)
    (fun _ hvalue => lt_of_hexValue? hvalue) (by decide)

/-- A digit is no gap between bytes, and it is written again in lower case. -/
theorem hexDigit_of_hexValue? {c : CodePoint} {d : Nat} (h : c.hexValue? = some d) :
    d < 16 ∧ hexDigit d = c.toAsciiLower ∧ Hex.isGap c = false := by
  have hascii : ∀ n : Fin 0x80, ∀ d ∈ (ofNat n).hexValue?,
      d < 16 ∧ hexDigit d = (ofNat n).toAsciiLower ∧ Hex.isGap (ofNat n) = false := by
    decide +kernel
  exact of_forall_ascii (p := fun c => ∀ d ∈ c.hexValue?,
    d < 16 ∧ hexDigit d = c.toAsciiLower ∧ Hex.isGap c = false) hascii
    (lt_of_hexValue? (by rw [h]; rfl)) d h

theorem isSome_hexValue?_hexDigit {d : Nat} (hd : d < 16) : (hexDigit d).hexValue?.isSome := by
  rw [hexValue?_hexDigit d hd]
  rfl

/-- A code point is a digit if it is one in lower case. -/
theorem isSome_hexValue?_of_toAsciiLower {c : CodePoint} (h : c.toAsciiLower.hexValue?.isSome) :
    c.hexValue?.isSome := by
  by_cases hc : c.val < 0x80
  · have hascii : ∀ n : Fin 0x80, (ofNat n).toAsciiLower.hexValue?.isSome →
        (ofNat n).hexValue?.isSome := by
      decide +kernel
    exact of_forall_ascii (p := fun c => c.toAsciiLower.hexValue?.isSome → c.hexValue?.isSome)
      hascii hc h
  · -- Beyond ASCII no code point is changed.
    have hsame : c.toAsciiLower = c := by
      rw [toAsciiLower, if_neg]
      simp only [Bool.and_eq_true, decide_eq_true_eq]
      omega
    rwa [hsame] at h

end CodePoint

namespace Hex

/-- Each byte is written with two digits. -/
theorem length_encode (bytes : Bytes) : (encode bytes).length = 2 * bytes.length := by
  induction bytes with
  | nil => rfl
  | cons b bytes ih =>
    rw [encode, List.flatMap_cons, List.length_append, ← encode, ih, List.length_cons]
    simp only [List.length_cons, List.length_nil]
    omega

/-- Bytes are written with digits only. -/
theorem exists_hexDigit_of_mem_encode {bytes : Bytes} {c : CodePoint} (h : c ∈ encode bytes) :
    ∃ d < 16, c = .hexDigit d := by
  obtain ⟨b, -, hc⟩ := List.mem_flatMap.mp h
  have hb := b.toNat_lt
  simp only [List.mem_cons, List.not_mem_nil, or_false] at hc
  rcases hc with rfl | rfl
  · exact ⟨b.toNat / 16, by omega, rfl⟩
  · exact ⟨b.toNat % 16, by omega, rfl⟩

theorem isSome_hexValue?_of_mem_encode {bytes : Bytes} {c : CodePoint} (h : c ∈ encode bytes) :
    c.hexValue?.isSome := by
  obtain ⟨d, hd, rfl⟩ := exists_hexDigit_of_mem_encode h
  exact CodePoint.isSome_hexValue?_hexDigit hd

/-- Two digits are read as the byte of their values. -/
theorem decodeFrom_cons_cons {c d : CodePoint} {high low : Nat} (hhigh : c.hexValue? = some high)
    (hlow : d.hexValue? = some low) (position : Nat) (rest : Text) :
    decodeFrom position (c :: d :: rest)
      = (decodeFrom (position + 2) rest).map (UInt8.ofNat (high * 16 + low) :: ·) := by
  rw [decodeFrom, if_neg, hhigh, hlow]
  simp [(CodePoint.hexDigit_of_hexValue? hhigh).2.2]

/-- A text of digits has no blanks to be skipped. -/
theorem decode_eq_decodeFrom {t : Text} (h : ∀ c ∈ t, c.hexValue?.isSome) :
    decode t = decodeFrom 0 t := by
  have hascii : t.findIdx? (fun c => 0x80 ≤ c.val) = none := by
    rw [List.findIdx?_eq_none_iff]
    intro c hc
    simpa using CodePoint.lt_of_hexValue? (h c hc)
  rw [decode, hascii]

/-- Bytes are read back from their digits. -/
theorem decode_encode (bytes : Bytes) : decode (encode bytes) = .ok bytes := by
  rw [decode_eq_decodeFrom fun c hc => isSome_hexValue?_of_mem_encode hc]
  generalize 0 = position
  induction bytes generalizing position with
  | nil => rfl
  | cons b bytes ih =>
    have hb := b.toNat_lt
    have hdigits : encode (b :: bytes) = .hexDigit (b.toNat / 16) :: .hexDigit (b.toNat % 16)
        :: encode bytes := rfl
    have hbyte : b.toNat / 16 * 16 + b.toNat % 16 = b.toNat := by omega
    rw [hdigits, decodeFrom_cons_cons (CodePoint.hexValue?_hexDigit _ (by omega))
      (CodePoint.hexValue?_hexDigit _ (by omega)), ih, hbyte, UInt8.ofNat_toNat]
    rfl

/-- Different bytes are written differently. -/
theorem encode_injective : Function.Injective encode := fun a b h =>
  Except.ok.inj ((decode_encode a).symm.trans ((congrArg decode h).trans (decode_encode b)))

/-- A byte is written as its two digits. -/
theorem encode_cons {high low : Nat} (hhigh : high < 16) (hlow : low < 16) (bytes : Bytes) :
    encode (UInt8.ofNat (high * 16 + low) :: bytes)
      = .hexDigit high :: .hexDigit low :: encode bytes := by
  have hbyte : (UInt8.ofNat (high * 16 + low)).toNat = high * 16 + low := by
    rw [UInt8.toNat_ofNat']
    omega
  have hfirst : (high * 16 + low) / 16 = high := by omega
  have hsecond : (high * 16 + low) % 16 = low := by omega
  rw [encode, List.flatMap_cons, hbyte, hfirst, hsecond]
  rfl

/-- An even number of digits is read, and written again in lower case. -/
theorem exists_decode_of_digits {t : Text} {size : Nat} (hlength : t.length = 2 * size)
    (h : ∀ c ∈ t, c.hexValue?.isSome) :
    ∃ bytes, decode t = .ok bytes ∧ bytes.length = size ∧ encode bytes = t.toAsciiLower := by
  rw [decode_eq_decodeFrom h]
  generalize 0 = position
  -- The digits are taken two by two.
  induction size generalizing t position with
  | zero =>
    obtain rfl := List.length_eq_zero_iff.mp hlength
    exact ⟨[], rfl, rfl, rfl⟩
  | succ size ih =>
    obtain ⟨c, d, rest, rfl⟩ : ∃ c d rest, t = c :: d :: rest := by
      match t, hlength with
      | c :: d :: rest, _ => exact ⟨c, d, rest, rfl⟩
    obtain ⟨high, hhigh⟩ := Option.isSome_iff_exists.mp (h c (by simp))
    obtain ⟨low, hlow⟩ := Option.isSome_iff_exists.mp (h d (by simp))
    have hrest : rest.length = 2 * size := by
      simp only [List.length_cons] at hlength
      omega
    obtain ⟨bytes, hbytes, hsize, hencode⟩ :=
      ih hrest (fun e he => h e (by simp [he])) (position + 2)
    obtain ⟨hhighlt, hhighlower, -⟩ := CodePoint.hexDigit_of_hexValue? hhigh
    obtain ⟨hlowlt, hlowlower, -⟩ := CodePoint.hexDigit_of_hexValue? hlow
    refine ⟨UInt8.ofNat (high * 16 + low) :: bytes, ?_, ?_, ?_⟩
    · rw [decodeFrom_cons_cons hhigh hlow, hbytes]
      rfl
    · rw [List.length_cons, hsize]
    · rw [encode_cons hhighlt hlowlt, hhighlower, hlowlower, hencode]
      rfl

/-- What is written for bytes, in either letter case, is all digits. -/
theorem isSome_hexValue?_of_mem {t : Text} {bytes : Bytes} (h : t.toAsciiLower = encode bytes)
    {c : CodePoint} (hc : c ∈ t) : c.hexValue?.isSome := by
  have hmem : c.toAsciiLower ∈ encode bytes := h ▸ List.mem_map_of_mem hc
  exact CodePoint.isSome_hexValue?_of_toAsciiLower (isSome_hexValue?_of_mem_encode hmem)

/-- The digits of bytes are read in either letter case. -/
theorem decode_of_toAsciiLower {t : Text} {bytes : Bytes} (h : t.toAsciiLower = encode bytes) :
    decode t = .ok bytes := by
  have hlength : t.length = 2 * bytes.length := by
    rw [← length_encode, ← h, Text.toAsciiLower, List.length_map]
  obtain ⟨found, hfound, -, hencode⟩ :=
    exists_decode_of_digits hlength fun c hc => isSome_hexValue?_of_mem h hc
  rw [hfound, encode_injective (hencode.trans h)]

/-! ## Gaps -/

/-- What is decoded has digits and blanks only. -/
theorem isGap_or_isSome_of_decodeFrom {position : Nat} {t : Text} {bytes : Bytes}
    (h : decodeFrom position t = .ok bytes) :
    ∀ c ∈ t, isGap c = true ∨ c.hexValue?.isSome := by
  fun_induction decodeFrom position t generalizing bytes with
  | case1 => simp
  | case2 position c hgap => simp [hgap]
  | case3 | case4 | case6 | case7 => contradiction
  | case5 position c d rest hgap ih =>
    rw [List.forall_mem_cons]
    exact ⟨.inl hgap, ih h⟩
  | case8 position c d rest hgap high low hlow hhigh ih =>
    obtain ⟨tail, htail, -⟩ := map_eq_ok_iff.mp h
    rw [List.forall_mem_cons, List.forall_mem_cons]
    exact ⟨.inr (by simp [hhigh]), .inr (by simp [hlow]), ih htail⟩

/-- What is decoded is, without its blanks and in lower case, how the bytes are written. -/
theorem encode_of_decodeFrom {position : Nat} {t : Text} {bytes : Bytes}
    (h : decodeFrom position t = .ok bytes) :
    encode bytes = Text.toAsciiLower (t.filter fun c => !isGap c) := by
  -- One case for each branch of the decoder: a gap is skipped, or two digits make a byte.
  fun_induction decodeFrom position t generalizing bytes with
  | case1 =>
    obtain rfl := Except.ok.inj h
    rfl
  | case2 position c hgap =>
    obtain rfl := Except.ok.inj h
    simp [hgap, encode, Text.toAsciiLower]
  | case3 | case4 | case6 | case7 => contradiction
  | case5 position c d rest hgap ih =>
    have hskip : (c :: d :: rest).filter (fun c => !isGap c)
        = (d :: rest).filter fun c => !isGap c := List.filter_cons_of_neg (by simp [hgap])
    rw [ih h, hskip]
  | case8 position c d rest hgap high low hlow hhigh ih =>
    obtain ⟨tail, htail, rfl⟩ := map_eq_ok_iff.mp h
    obtain ⟨hhighlt, hhighlower, hhighgap⟩ := CodePoint.hexDigit_of_hexValue? hhigh
    obtain ⟨hlowlt, hlowlower, hlowgap⟩ := CodePoint.hexDigit_of_hexValue? hlow
    rw [encode_cons hhighlt hlowlt, ih htail, hhighlower, hlowlower,
      List.filter_cons_of_pos (by simp [hhighgap]), List.filter_cons_of_pos (by simp [hlowgap])]
    rfl

section Decoded

variable {t : Text} {bytes : Bytes} (h : decode t = .ok bytes)
include h

theorem decodeFrom_of_decode : decodeFrom 0 t = .ok bytes := by
  rw [decode] at h
  split at h
  · contradiction
  · exact h

/-- All text that is read is digits and gaps. -/
theorem isGap_or_isSome_of_decode : ∀ c ∈ t, isGap c = true ∨ c.hexValue?.isSome :=
  isGap_or_isSome_of_decodeFrom (decodeFrom_of_decode h)

/-- The digits that are read are those of the bytes, in either letter case. -/
theorem encode_of_decode : encode bytes = Text.toAsciiLower (t.filter fun c => !isGap c) :=
  encode_of_decodeFrom (decodeFrom_of_decode h)

/-- There are two digits for each byte. -/
theorem length_of_decode : (t.filter fun c => !isGap c).length = 2 * bytes.length := by
  rw [← length_encode, encode_of_decode h, Text.toAsciiLower, List.length_map]

end Decoded

end Hex

end FleetToken
