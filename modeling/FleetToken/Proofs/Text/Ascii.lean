import FleetToken.Token.Compact
import Mathlib.Tactic.Common

/-!
# ASCII text

Tokens are ASCII, and so is the JSON inside the tokens that are written here. On ASCII text the
encodings of Unicode agree: a code point is one byte, and bytes are read back as the text that
they were written from.

## Main results

- `Text.ofUtf8?_toUtf8`: ASCII text is read back from its bytes;
- `Text.encodeUtf8?_ofAscii`: the bytes of a text made of ASCII bytes;
- `Text.eq_ofAscii_of_toUtf8`: a text whose bytes are ASCII is made of them.
-/

namespace FleetToken

namespace CodePoint

/-- Code points are known by their numbers. -/
theorem eq_of_val_eq {c d : CodePoint} (h : c.val = d.val) : c = d := by
  obtain ⟨m, hm⟩ := c
  obtain ⟨n, hn⟩ := d
  subst h
  rfl

@[simp]
theorem val_ofChar (c : Char) : (ofChar c).val = c.toNat := rfl

theorem val_ofNat {n : Nat} (h : n < 0x110000) : (ofNat n).val = n := by
  simp [ofNat, h]

@[simp]
theorem ofNat_val (c : CodePoint) : ofNat c.val = c := by
  simp [ofNat, c.isLt]

/-- What holds of all ASCII code points holds of one with an ASCII number. -/
theorem of_forall_ascii {p : CodePoint → Prop} (h : ∀ n : Fin 0x80, p (ofNat n)) {c : CodePoint}
    (hc : c.val < 0x80) : p c := by
  have hn := h ⟨c.val, hc⟩
  rwa [ofNat_val] at hn

/-- A check on code points allows those of an alphabet if it does so on ASCII code points, and
neither has others. -/
theorem iff_mem_alphabet {p : CodePoint → Prop} {alphabet : List CodePoint}
    (h : ∀ n : Fin 0x80, p (ofNat n) ↔ ofNat n ∈ alphabet) (hp : ∀ c, p c → c.val < 0x80)
    (halphabet : ∀ c ∈ alphabet, c.val < 0x80) {c : CodePoint} : p c ↔ c ∈ alphabet := by
  by_cases hc : c.val < 0x80
  · exact of_forall_ascii (p := fun c => p c ↔ c ∈ alphabet) h hc
  · exact iff_of_false (fun hallowed => hc (hp c hallowed)) fun hmem => hc (halphabet c hmem)

/-- ASCII has no surrogates. -/
theorem isSurrogate_of_lt {c : CodePoint} (h : c.val < 0x80) : c.isSurrogate = false := by
  have hc : ¬ 0xD800 ≤ c.val := by omega
  simp [isSurrogate, hc]

/-- An ASCII code point is written as its own byte. -/
theorem toUtf8_of_lt {c : CodePoint} (h : c.val < 0x80) : c.toUtf8 = [UInt8.ofNat c.val] := by
  simp [toUtf8, h]

/-- The first byte of a code point beyond ASCII is no ASCII byte. -/
theorem exists_mem_toUtf8 {c : CodePoint} (h : 0x80 ≤ c.val) :
    ∃ b ∈ c.toUtf8, 0x80 ≤ b := by
  have hlt := c.isLt
  simp only [toUtf8, show ¬ c.val < 0x80 by omega, ↓reduceIte, Nat.shiftRight_eq_div_pow]
  -- Two, three and four bytes differ only in the mark of the first one.
  split
  · refine ⟨_, List.mem_cons_self, ?_⟩
    simp only [UInt8.le_iff_toNat_le, UInt8.toNat_ofNat', UInt8.reduceToNat]
    omega
  split
  · refine ⟨_, List.mem_cons_self, ?_⟩
    simp only [UInt8.le_iff_toNat_le, UInt8.toNat_ofNat', UInt8.reduceToNat]
    omega
  · refine ⟨_, List.mem_cons_self, ?_⟩
    simp only [UInt8.le_iff_toNat_le, UInt8.toNat_ofNat', UInt8.reduceToNat]
    omega

end CodePoint

namespace Text

/-- All code points of the text are ASCII. -/
def IsAscii (t : Text) : Prop :=
  ∀ c ∈ t, c.val < 0x80

/-- ASCII text is written with one byte for each code point. -/
theorem toUtf8_eq_map {t : Text} (h : t.IsAscii) :
    t.toUtf8 = t.map fun c => UInt8.ofNat c.val := by
  induction t with
  | nil => rfl
  | cons c t ih =>
    have hc : c.val < 0x80 := h c List.mem_cons_self
    have ht : IsAscii t := fun d hd => h d (List.mem_cons_of_mem c hd)
    rw [List.map_cons, ← ih ht, toUtf8, List.flatMap_cons, CodePoint.toUtf8_of_lt hc]
    rfl

theorem toUtf8_lt {t : Text} (h : t.IsAscii) : ∀ b ∈ t.toUtf8, b < 0x80 := by
  intro b hb
  rw [toUtf8_eq_map h] at hb
  obtain ⟨c, hc, rfl⟩ := List.mem_map.mp hb
  have := h c hc
  simp only [UInt8.lt_iff_toNat_lt, UInt8.toNat_ofNat', UInt8.reduceToNat]
  omega

/-- A text is well formed if it has no surrogates. -/
theorem any_isSurrogate_eq_false_iff {t : Text} :
    t.any CodePoint.isSurrogate = false ↔ t.WellFormed := by
  simp only [List.any_eq_false, WellFormed, Bool.not_eq_true]

theorem any_isSurrogate_eq_false {t : Text} (h : t.WellFormed) :
    t.any CodePoint.isSurrogate = false :=
  any_isSurrogate_eq_false_iff.mpr h

/-- A text without surrogates is encoded as it is written. -/
theorem encodeUtf8?_of_wellFormed {t : Text} (h : t.WellFormed) :
    t.encodeUtf8? = some t.toUtf8 := by
  rw [encodeUtf8?, any_isSurrogate_eq_false h]
  rfl

/-- A text with a surrogate is not encoded. -/
theorem encodeUtf8?_of_not_wellFormed {t : Text} (h : ¬t.WellFormed) : t.encodeUtf8? = none := by
  have hany : t.any CodePoint.isSurrogate = true := by
    rw [← Bool.not_eq_false, List.any_eq_false]
    simpa [WellFormed] using h
  rw [encodeUtf8?, hany]
  rfl

/-- ASCII text holds no surrogates. -/
theorem wellFormed_of_isAscii {t : Text} (h : t.IsAscii) : t.WellFormed :=
  fun c hc => CodePoint.isSurrogate_of_lt (h c hc)

theorem encodeUtf8?_of_ascii {t : Text} (h : t.IsAscii) : t.encodeUtf8? = some t.toUtf8 :=
  encodeUtf8?_of_wellFormed (wellFormed_of_isAscii h)

/-- An ASCII byte is a code point of its own for the scanner. -/
theorem scan_ascii (surrogates : Bool) {bytes : Bytes} (h : ∀ b ∈ bytes, b < 0x80) :
    Utf8.scan surrogates 0 bytes = bytes.map fun b => some (.ofNat b.toNat) := by
  induction bytes with
  | nil => rfl
  | cons b bytes ih =>
    have hb : b < 0x80 := h b List.mem_cons_self
    simp only [Utf8.scan, Utf8.front, hb, ↓reduceIte, List.map_cons]
    -- The front of an ASCII byte is one byte long, so nothing is skipped before the rest.
    rw [ih fun d hd => h d (List.mem_cons_of_mem b hd)]

/-- ASCII bytes are read as the code points with their values. -/
theorem ofUtf8?_ascii (surrogates : Bool) {bytes : Bytes} (h : ∀ b ∈ bytes, b < 0x80) :
    ofUtf8? surrogates bytes = some (ofAscii bytes) := by
  rw [ofUtf8?, scan_ascii surrogates h]
  -- The bound on the bytes has done its work; the rest holds for any bytes.
  clear h
  induction bytes with
  | nil => rfl
  | cons b bytes ih => simp_all [ofAscii]

/-- ASCII text is read back from the bytes that it is written with. -/
theorem ofAscii_toUtf8 {t : Text} (h : t.IsAscii) : ofAscii t.toUtf8 = t := by
  -- Code point to byte and back, under one map.
  rw [toUtf8_eq_map h, ofAscii, List.map_map]
  refine (List.map_congr_left fun c hc => ?_).trans (List.map_id t)
  have hlt := h c hc
  simp only [Function.comp_apply, UInt8.toNat_ofNat', id_eq]
  rw [Nat.mod_eq_of_lt (by omega), CodePoint.ofNat_val]

/-- ASCII text is read back from its bytes. -/
theorem ofUtf8?_toUtf8 (surrogates : Bool) {t : Text} (h : t.IsAscii) :
    ofUtf8? surrogates t.toUtf8 = some t := by
  rw [ofUtf8?_ascii surrogates (toUtf8_lt h), ofAscii_toUtf8 h]

theorem ofAscii_isAscii {bytes : Bytes} (h : ∀ b ∈ bytes, b < 0x80) : IsAscii (ofAscii bytes) := by
  intro c hc
  obtain ⟨b, hb, rfl⟩ := List.mem_map.mp hc
  have hlt := UInt8.lt_iff_toNat_lt.mp (h b hb)
  rw [CodePoint.val_ofNat (by have := b.toNat_lt; omega)]
  simpa using hlt

theorem lt_of_ofAscii_isAscii {bytes : Bytes} (h : IsAscii (ofAscii bytes)) :
    ∀ b ∈ bytes, b < 0x80 := by
  intro b hb
  have hlt := h _ (List.mem_map.mpr ⟨b, hb, rfl⟩)
  rw [CodePoint.val_ofNat (by have := b.toNat_lt; omega)] at hlt
  simpa [UInt8.lt_iff_toNat_lt] using hlt

/-- ASCII bytes are written back as the text that is read from them. -/
theorem toUtf8_ofAscii {bytes : Bytes} (h : ∀ b ∈ bytes, b < 0x80) :
    (ofAscii bytes).toUtf8 = bytes := by
  rw [toUtf8_eq_map (ofAscii_isAscii h), ofAscii, List.map_map]
  refine (List.map_congr_left fun b _ => ?_).trans (List.map_id bytes)
  have hlt := b.toNat_lt
  simp only [Function.comp_apply, id_eq]
  rw [CodePoint.val_ofNat (by omega), UInt8.ofNat_toNat]

/-- The bytes of a text made of ASCII bytes are these. -/
theorem encodeUtf8?_ofAscii {bytes : Bytes} (h : ∀ b ∈ bytes, b < 0x80) :
    (ofAscii bytes).encodeUtf8? = some bytes := by
  rw [encodeUtf8?_of_ascii (ofAscii_isAscii h), toUtf8_ofAscii h]

/-- A text that is written in ASCII is ASCII. -/
theorem isAscii_of_toUtf8 {t : Text} (h : ∀ b ∈ t.toUtf8, b < 0x80) : t.IsAscii := by
  intro c hc
  by_contra hge
  -- A code point beyond ASCII would leave a byte beyond ASCII.
  obtain ⟨b, hb, hle⟩ := CodePoint.exists_mem_toUtf8 (Nat.le_of_not_lt hge)
  have hlt := h b (List.mem_flatMap.mpr ⟨c, hc, hb⟩)
  exact absurd hlt (by simpa using hle)

/-- A text whose bytes are ASCII is made of them. -/
theorem eq_ofAscii_of_toUtf8 {t : Text} (h : ∀ b ∈ t.toUtf8, b < 0x80) :
    t = ofAscii t.toUtf8 :=
  (ofAscii_toUtf8 (isAscii_of_toUtf8 h)).symm

end Text

end FleetToken
