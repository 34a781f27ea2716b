import FleetToken.Proofs.Text.Blank
import FleetToken.Text.DecimalDigit

/-!
# Numerals

What stands in a text that is read as an integer: digits of any script and underscores, perhaps a
sign before them, and white space around all of it. A run of ASCII digits is read as the number
that the digits write.

## Main definitions

* `CodePoint.isPadding`: the white space around a numeral.

## Main results

* `Text.mem_of_readInt?`: what a numeral is made of.
* `Text.readInt?_of_digits`: a run of ASCII digits behind its sign.
-/

namespace FleetToken

namespace CodePoint

/-- White space that may stand around a numeral. -/
def isPadding (c : CodePoint) : Bool :=
  c.isBlank && !c.isInformationSeparator

/-- An ASCII digit is a decimal digit with its value. -/
theorem decimalDigit?_of_isAsciiDigit {c : CodePoint} (h : c.isAsciiDigit = true) :
    c.decimalDigit? = some (c.val - 0x30) := by
  rw [isAsciiDigit, Bool.and_eq_true_iff, decide_eq_true_eq, decide_eq_true_eq] at h
  -- The digits of ASCII are the first run of all.
  have hrun : (0x30 ≤ c.val && c.val < 0x30 + 10) = true := by
    rw [Bool.and_eq_true_iff, decide_eq_true_eq, decide_eq_true_eq]
    omega
  rw [decimalDigit?, decimalZeros, List.findSome?_cons, if_pos hrun]

/-- An ASCII digit is not trimmed off. -/
theorem isPadding_of_isAsciiDigit {c : CodePoint} (h : c.isAsciiDigit = true) :
    c.isPadding = false := by
  rw [isAsciiDigit, Bool.and_eq_true_iff, decide_eq_true_eq, decide_eq_true_eq] at h
  have hblank : c.isBlank = false := by
    simp [isBlank, blankRanges]
    omega
  rw [isPadding, hblank, Bool.false_and]

end CodePoint

namespace Text

/-! ## Signs and digits -/

/-- Only a sign is taken off the front. -/
theorem mem_readSign_or {c : CodePoint} {t : Text} (h : c ∈ t) :
    c ∈ (readSign t).2 ∨ c = CodePoint.ofChar '-' ∨ c = CodePoint.ofChar '+' := by
  cases t with
  | nil => contradiction
  | cons d rest =>
    rw [readSign]
    rcases List.mem_cons.mp h with rfl | hrest
    · split
      · rename_i hminus
        exact .inr (.inl hminus)
      split
      · rename_i hplus
        exact .inr (.inr hplus)
      · exact .inl List.mem_cons_self
    · split
      · exact .inl hrest
      split
      · exact .inl hrest
      · exact .inl (List.mem_cons_of_mem d hrest)

theorem mem_of_mem_readSign {c : CodePoint} {t : Text} (h : c ∈ (readSign t).2) : c ∈ t := by
  cases t with
  | nil => contradiction
  | cons d rest =>
    rw [readSign] at h
    split at h
    · exact List.mem_cons_of_mem d h
    split at h
    · exact List.mem_cons_of_mem d h
    · exact h

/-- A text without a sign in front is a positive number. -/
theorem readSign_of_isAsciiDigit {c : CodePoint} {t : Text} (h : c.isAsciiDigit = true) :
    readSign (c :: t) = (false, c :: t) := by
  have hminus : c ≠ CodePoint.ofChar '-' := by
    rintro rfl
    exact absurd h (by decide)
  have hplus : c ≠ CodePoint.ofChar '+' := by
    rintro rfl
    exact absurd h (by decide)
  rw [readSign, if_neg hminus, if_neg hplus]

/-- Digits and underscores are all that is read. -/
theorem mem_of_readDigits? {digit : CodePoint → Option Nat} {t : Text} {digits : List Nat}
    (h : readDigits? digit t = some digits) :
    ∀ c ∈ t, (digit c).isSome ∨ c = CodePoint.ofChar '_' := by
  induction t using readDigits?.induct generalizing digits with
  | case1 => simp
  | case2 c =>
    obtain ⟨d, hd, -⟩ := Option.map_eq_some_iff.mp h
    simp [hd]
  | case3 c sep rest ihRest ihSep =>
    rw [readDigits?] at h
    obtain ⟨d, hd, hmore⟩ := Option.bind_eq_some_iff.mp h
    have hfirst : (digit c).isSome := by simp [hd]
    -- An underscore is passed over, and anything else is the next digit.
    split at hmore
    · rename_i hsep
      obtain ⟨more, hread, -⟩ := Option.bind_eq_some_iff.mp hmore
      exact List.forall_mem_cons.mpr
        ⟨.inl hfirst, List.forall_mem_cons.mpr ⟨.inr hsep, ihRest hread⟩⟩
    · obtain ⟨more, hread, -⟩ := Option.bind_eq_some_iff.mp hmore
      exact List.forall_mem_cons.mpr ⟨.inl hfirst, ihSep hread⟩

/-- Digits without low lines are read one by one. -/
theorem readDigits?_of_digits {t : Text} (hne : t ≠ [])
    (h : ∀ c ∈ t, c.isAsciiDigit = true) :
    readDigits? CodePoint.decimalDigit? t = some (t.map fun c => c.val - 0x30) := by
  induction t using readDigits?.induct with
  | case1 => contradiction
  | case2 c =>
    rw [readDigits?, CodePoint.decimalDigit?_of_isAsciiDigit (h c List.mem_cons_self)]
    rfl
  | case3 c sep rest _ ih =>
    obtain ⟨hfirst, hmore⟩ := List.forall_mem_cons.mp h
    -- The next digit is no underscore.
    have hsep : sep ≠ CodePoint.ofChar '_' := by
      rintro rfl
      exact absurd (hmore _ List.mem_cons_self) (by decide)
    simp only [readDigits?, CodePoint.decimalDigit?_of_isAsciiDigit hfirst, if_neg hsep,
      ih (List.cons_ne_nil sep rest) hmore]
    rfl

/-! ## Integers -/

/-- What may stand in a numeral besides its sign. -/
def IsNumeric (c : CodePoint) : Prop :=
  c.isPadding = true ∨ c.decimalDigit?.isSome ∨ c = CodePoint.ofChar '_'

instance : DecidablePred IsNumeric := fun c =>
  inferInstanceAs (Decidable (_ ∨ c.decimalDigit?.isSome ∨ c = CodePoint.ofChar '_'))

theorem not_isNumeric_hyphen : ¬IsNumeric (CodePoint.ofChar '-') := by decide

theorem not_isNumeric_point : ¬IsNumeric (CodePoint.ofChar '.') := by decide

/-- What it takes for a text to write an integer. -/
theorem readInt?_eq_some_iff {t : Text} {n : Int} : readInt? t = some n ↔
    ∃ digits, readDigits? CodePoint.decimalDigit? (readSign (trimBy CodePoint.isPadding t)).2
        = some digits
      ∧ digits.length ≤ maxIntDigits
      ∧ signed (readSign (trimBy CodePoint.isPadding t)).1 (ofDigits digits) = n := by
  have hpadding : CodePoint.isPadding = fun c => c.isBlank && !c.isInformationSeparator := rfl
  rw [readInt?, hpadding]
  simp only [Option.bind_eq_bind, Option.bind_eq_some_iff]
  refine exists_congr fun digits => and_congr_right fun _ => ?_
  split
  · rename_i hlength
    simp [hlength]
  · rename_i hlength
    simp [hlength]

/-- What a text is made of that is read as an integer. -/
theorem mem_of_readInt? {t : Text} {n : Int} (h : readInt? t = some n) {c : CodePoint}
    (hc : c ∈ t) : IsNumeric c ∨ c = CodePoint.ofChar '-' ∨ c = CodePoint.ofChar '+' := by
  obtain ⟨digits, hdigits, -⟩ := readInt?_eq_some_iff.mp h
  rcases mem_trimBy_or (p := CodePoint.isPadding) hc with hbody | hpadding
  · rcases mem_readSign_or hbody with hnumeral | hsign
    · exact .inl (.inr (mem_of_readDigits? hdigits c hnumeral))
    · exact .inr hsign
  · exact .inl (.inl hpadding)

/-- Behind a digit there is no place for a sign. -/
theorem mem_of_readInt?_cons {d : CodePoint} {t : Text} {n : Int} (hd : d.isAsciiDigit = true)
    (h : readInt? (d :: t) = some n) {c : CodePoint} (hc : c ∈ d :: t) : IsNumeric c := by
  obtain ⟨digits, hdigits, -⟩ := readInt?_eq_some_iff.mp h
  have hpadding := CodePoint.isPadding_of_isAsciiDigit hd
  rw [trimBy_cons hpadding, readSign_of_isAsciiDigit hd, ← trimBy_cons hpadding] at hdigits
  rcases mem_trimBy_or (p := CodePoint.isPadding) hc with hbody | hblank
  · exact .inr (mem_of_readDigits? hdigits c hbody)
  · exact .inl hblank

/-- A run of ASCII digits behind its sign is read as what the digits write. -/
theorem readInt?_of_digits {t : Text} {n : Int} (hne : (readSign t).2 ≠ [])
    (hdigits : ∀ c ∈ (readSign t).2, c.isAsciiDigit = true) (h : readInt? t = some n) :
    n = signed (readSign t).1 (digitsValue (readSign t).2) := by
  -- Neither a sign nor a digit is trimmed off.
  have htrim : trimBy CodePoint.isPadding t = t := by
    refine trimBy_eq_self fun c hc => ?_
    rcases mem_readSign_or hc with hdigit | rfl | rfl
    · exact CodePoint.isPadding_of_isAsciiDigit (hdigits c hdigit)
    · decide
    · decide
  obtain ⟨found, hfound, -, rfl⟩ := readInt?_eq_some_iff.mp h
  rw [htrim] at hfound ⊢
  rw [readDigits?_of_digits hne hdigits] at hfound
  rw [← Option.some.inj hfound, ofDigits, List.foldl_map]
  rfl

end Text

end FleetToken
