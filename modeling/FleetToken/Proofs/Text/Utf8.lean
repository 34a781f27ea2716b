import FleetToken.Proofs.Text.Ascii

/-!
# UTF-8 read back

A text without surrogates is read back from its bytes. The bytes of each code point are its front
for the scanner, whatever stands behind them: the ranges of the second byte exclude only the forms
that are too long, too large or of surrogates.

## Main results

- `Utf8.front_toUtf8`: the bytes of a code point are read as this code point.
- `Utf8.scan_toUtf8`: the scanner goes from code point to code point.
- `Text.ofUtf8Replacing_toUtf8`: a text without surrogates is read back, and nothing is replaced.
-/

namespace FleetToken

namespace Utf8

/-! ## The front by the first byte -/

section Front

variable {lead second third fourth : UInt8} {rest : Bytes}

/-- A byte continues a code point if its two upper bits are one and zero. -/
theorem isContinuation_iff {b : UInt8} :
    isContinuation b = true ↔ 0x80 ≤ b.toNat ∧ b.toNat < 0xC0 := by
  simp only [isContinuation, Bool.and_eq_true, decide_eq_true_eq, UInt8.le_iff_toNat_le,
    UInt8.lt_iff_toNat_lt, UInt8.reduceToNat]

/-- The second byte lies in the range that the first one leaves it. -/
def MayFollow (lead second : UInt8) : Prop :=
  ¬(second < (secondRange false lead).1 || (secondRange false lead).2 < second) = true

/-- A continuation byte may come second, but for the forms that are too long, the surrogates and
what lies beyond the last code point. -/
theorem mayFollow_of_isContinuation (hcontinues : isContinuation second = true)
    (hthree : lead.toNat = 0xE0 → 0xA0 ≤ second.toNat)
    (hsurrogate : lead.toNat = 0xED → second.toNat < 0xA0)
    (hfour : lead.toNat = 0xF0 → 0x90 ≤ second.toNat)
    (hlast : lead.toNat = 0xF4 → second.toNat < 0x90) : MayFollow lead second := by
  obtain ⟨hlow, hhigh⟩ := isContinuation_iff.mp hcontinues
  simp only [MayFollow, secondRange, Bool.or_eq_true, decide_eq_true_eq, UInt8.lt_iff_toNat_lt,
    ← UInt8.toNat_inj, UInt8.reduceToNat, Bool.false_eq_true, if_false]
  split
  · simp only [UInt8.reduceToNat]
    omega
  split
  · simp only [UInt8.reduceToNat]
    omega
  split
  · simp only [UInt8.reduceToNat]
    omega
  split
  · simp only [UInt8.reduceToNat]
    omega
  · simp only [UInt8.reduceToNat]
    omega

/-- A byte below 0x80 is a code point by itself. -/
theorem front_one (hhigh : lead.toNat < 0x80) :
    front false lead rest = .codePoint (.ofNat lead.toNat) 0 := by
  rw [front, if_pos (UInt8.lt_iff_toNat_lt.mpr hhigh)]

/-- Two bytes write a code point of eleven bits. -/
theorem front_two (hlow : 0xC2 ≤ lead.toNat) (hhigh : lead.toNat < 0xE0)
    (hsecond : MayFollow lead second) : front false lead (second :: rest)
      = .codePoint (.ofNat ((lead.toNat - 0xC0) * 0x40 + continuationBits second)) 1 := by
  have hlead : ¬lead < 0x80 ∧ ¬(lead < 0xC2 || 0xF4 < lead) = true ∧ lead < 0xE0 := by
    simp only [Bool.or_eq_true, decide_eq_true_eq, UInt8.lt_iff_toNat_lt, UInt8.reduceToNat]
    omega
  simp only [front, if_neg hlead.1, if_neg hlead.2.1, if_neg hsecond, if_pos hlead.2.2]

/-- Three bytes write a code point of sixteen bits. -/
theorem front_three (hlow : 0xE0 ≤ lead.toNat) (hhigh : lead.toNat < 0xF0)
    (hsecond : MayFollow lead second) (hthird : isContinuation third = true) :
    front false lead (second :: third :: rest)
      = .codePoint (.ofNat (((lead.toNat - 0xE0) * 0x40 + continuationBits second) * 0x40
        + continuationBits third)) 2 := by
  have hlead : ¬lead < 0x80 ∧ ¬(lead < 0xC2 || 0xF4 < lead) = true ∧ ¬lead < 0xE0
      ∧ lead < 0xF0 := by
    simp only [Bool.or_eq_true, decide_eq_true_eq, UInt8.lt_iff_toNat_lt, UInt8.reduceToNat]
    omega
  simp only [front, if_neg hlead.1, if_neg hlead.2.1, if_neg hsecond, if_neg hlead.2.2.1,
    if_pos hlead.2.2.2, hthird, Bool.not_true, Bool.false_eq_true, if_false]

/-- Four bytes write a code point of twenty-one bits. -/
theorem front_four (hlow : 0xF0 ≤ lead.toNat) (hhigh : lead.toNat ≤ 0xF4)
    (hsecond : MayFollow lead second) (hthird : isContinuation third = true)
    (hfourth : isContinuation fourth = true) :
    front false lead (second :: third :: fourth :: rest)
      = .codePoint (.ofNat ((((lead.toNat - 0xF0) * 0x40 + continuationBits second) * 0x40
        + continuationBits third) * 0x40 + continuationBits fourth)) 3 := by
  have hlead : ¬lead < 0x80 ∧ ¬(lead < 0xC2 || 0xF4 < lead) = true ∧ ¬lead < 0xE0
      ∧ ¬lead < 0xF0 := by
    simp only [Bool.or_eq_true, decide_eq_true_eq, UInt8.lt_iff_toNat_lt, UInt8.reduceToNat]
    omega
  simp only [front, if_neg hlead.1, if_neg hlead.2.1, if_neg hsecond, if_neg hlead.2.2.1,
    if_neg hlead.2.2.2, hthird, hfourth, Bool.not_true, Bool.false_eq_true, if_false]

end Front

/-! ## The bytes of a code point -/

-- Every byte but the first carries six bits of the number.

theorem toNat_continuation (n : Nat) : (UInt8.ofNat (0x80 + n % 0x40)).toNat = 0x80 + n % 0x40 :=
  UInt8.toNat_ofNat_of_lt' (show _ < 0x100 by omega)

/-- Six bits below the continuation mark make a continuation byte. -/
theorem isContinuation_continuation (n : Nat) :
    isContinuation (UInt8.ofNat (0x80 + n % 0x40)) = true := by
  rw [isContinuation_iff, toNat_continuation]
  omega

/-- A continuation byte gives its six bits back. -/
theorem continuationBits_continuation (n : Nat) :
    continuationBits (UInt8.ofNat (0x80 + n % 0x40)) = n % 0x40 := by
  rw [continuationBits, toNat_continuation]
  omega

/-- The bytes of a code point are read as this code point, whatever follows them. -/
theorem front_toUtf8 {c : CodePoint} (h : c.isSurrogate = false) (rest : Bytes) :
    ∃ lead more, c.toUtf8 = lead :: more
      ∧ front false lead (more ++ rest) = .codePoint c more.length := by
  have hlt := c.isLt
  rw [CodePoint.isSurrogate, Bool.and_eq_false_iff, decide_eq_false_iff_not,
    decide_eq_false_iff_not] at h
  simp only [CodePoint.toUtf8, Nat.shiftRight_eq_div_pow]
  -- One, two, three and four bytes: the six-bit digits of the number add up to it again.
  split
  · refine ⟨_, _, rfl, ?_⟩
    have hlead := UInt8.toNat_ofNat_of_lt' (show c.val < 0x100 by omega)
    rw [List.nil_append, front_one (by omega), hlead, CodePoint.ofNat_val]
    rfl
  split
  · refine ⟨_, _, rfl, ?_⟩
    have hlead := UInt8.toNat_ofNat_of_lt' (show 0xC0 + c.val / 2 ^ 6 < 0x100 by omega)
    have hsecond : MayFollow (UInt8.ofNat (0xC0 + c.val / 2 ^ 6))
        (UInt8.ofNat (0x80 + c.val / 2 ^ 0 % 0x40)) := by
      apply mayFollow_of_isContinuation (isContinuation_continuation _) <;> (rw [hlead]; omega)
    have hvalue : (0xC0 + c.val / 2 ^ 6 - 0xC0) * 0x40 + c.val / 2 ^ 0 % 0x40 = c.val := by omega
    rw [List.cons_append, List.nil_append, front_two (by omega) (by omega) hsecond, hlead,
      continuationBits_continuation, hvalue, CodePoint.ofNat_val]
    rfl
  split
  · refine ⟨_, _, rfl, ?_⟩
    have hlead := UInt8.toNat_ofNat_of_lt' (show 0xE0 + c.val / 2 ^ 12 < 0x100 by omega)
    have hsecond : MayFollow (UInt8.ofNat (0xE0 + c.val / 2 ^ 12))
        (UInt8.ofNat (0x80 + c.val / 2 ^ 6 % 0x40)) := by
      apply mayFollow_of_isContinuation (isContinuation_continuation _) <;>
        (rw [hlead, toNat_continuation]; omega)
    have hvalue : ((0xE0 + c.val / 2 ^ 12 - 0xE0) * 0x40 + c.val / 2 ^ 6 % 0x40) * 0x40
        + c.val / 2 ^ 0 % 0x40 = c.val := by omega
    rw [List.cons_append, List.cons_append, List.nil_append,
      front_three (by omega) (by omega) hsecond (isContinuation_continuation _), hlead,
      continuationBits_continuation, continuationBits_continuation, hvalue, CodePoint.ofNat_val]
    rfl
  · refine ⟨_, _, rfl, ?_⟩
    have hlead := UInt8.toNat_ofNat_of_lt' (show 0xF0 + c.val / 2 ^ 18 < 0x100 by omega)
    have hsecond : MayFollow (UInt8.ofNat (0xF0 + c.val / 2 ^ 18))
        (UInt8.ofNat (0x80 + c.val / 2 ^ 12 % 0x40)) := by
      apply mayFollow_of_isContinuation (isContinuation_continuation _) <;>
        (rw [hlead, toNat_continuation]; omega)
    have hvalue : (((0xF0 + c.val / 2 ^ 18 - 0xF0) * 0x40 + c.val / 2 ^ 12 % 0x40) * 0x40
        + c.val / 2 ^ 6 % 0x40) * 0x40 + c.val / 2 ^ 0 % 0x40 = c.val := by omega
    rw [List.cons_append, List.cons_append, List.cons_append, List.nil_append,
      front_four (by omega) (by omega) hsecond (isContinuation_continuation _)
        (isContinuation_continuation _), hlead, continuationBits_continuation,
      continuationBits_continuation, continuationBits_continuation, hvalue, CodePoint.ofNat_val]
    rfl

/-! ## Scanning -/

/-- Bytes that are to be passed over are passed over. -/
theorem scan_append (surrogates : Bool) (more rest : Bytes) :
    scan surrogates more.length (more ++ rest) = scan surrogates 0 rest := by
  induction more with
  | nil => rfl
  | cons b more ih =>
    rw [List.length_cons, List.cons_append, scan]
    exact ih

/-- The scanner goes from code point to code point. -/
theorem scan_toUtf8 {t : Text} (h : t.WellFormed) : scan false 0 t.toUtf8 = t.map some := by
  induction t with
  | nil => rfl
  | cons c t ih =>
    obtain ⟨lead, more, hbytes, hfront⟩ := front_toUtf8 (h c List.mem_cons_self) (Text.toUtf8 t)
    have hrest := ih fun d hd => h d (List.mem_cons_of_mem c hd)
    rw [Text.toUtf8, List.flatMap_cons, hbytes, List.cons_append, scan]
    rw [Text.toUtf8] at hfront hrest
    rw [hfront]
    simp only [scan_append, hrest, List.map_cons]

end Utf8

/-- A text without surrogates is read back from its bytes, and nothing in it is replaced. -/
theorem Text.ofUtf8Replacing_toUtf8 {t : Text} (h : t.WellFormed) :
    ofUtf8Replacing t.toUtf8 = t := by
  rw [ofUtf8Replacing, Utf8.scan_toUtf8 h, List.map_map]
  exact List.map_id t

end FleetToken
