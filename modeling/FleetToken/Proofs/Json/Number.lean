import FleetToken.Json.Printer
import FleetToken.Json.Reader
import FleetToken.Proofs.Text.Ascii
import Mathlib.Algebra.Order.Ring.Nat
import Mathlib.Data.List.TakeDrop

/-!
# Integers in JSON text

An integer is written as its shortest decimal form, and what follows it in a compact document is a
comma, a closing bracket or the end. The reader takes exactly the digits and gives the integer
back, as long as there are not too many of them.

## Main definitions

* `Json.Delimited`: text that may follow a value in a compact document.

## Main results

* `Json.readScalar_ofInt`: a written integer is read back.
-/

namespace FleetToken

namespace Text

/-- A number is written with at least one digit. -/
theorem ofNat_ne_nil (n : Nat) : ofNat n ≠ [] := by
  simp [ofNat, Nat.toDigits_ne_nil]

/-- The digits of a number are ASCII digits. -/
theorem isAsciiDigit_of_mem_ofNat {n : Nat} {c : CodePoint} (h : c ∈ ofNat n) :
    c.isAsciiDigit = true := by
  obtain ⟨d, hd, rfl⟩ := List.mem_map.mp h
  have hdigit := Nat.isDigit_of_mem_toDigits (by decide) (by decide) hd
  simp only [Char.isDigit, ge_iff_le, UInt32.le_iff_toNat_le, Bool.and_eq_true,
    decide_eq_true_eq] at hdigit
  exact Bool.and_eq_true_iff.mpr ⟨decide_eq_true hdigit.1, decide_eq_true hdigit.2⟩

/-- Reading the digits of a number gives the number. -/
theorem digitsValue_ofNat (n : Nat) : digitsValue (ofNat n) = n := by
  rw [digitsValue, ofNat, List.foldl_map]
  exact Nat.ofDigitChars_ten_toDigits

/-- The limit on digits is a limit on numbers. -/
theorem length_ofNat_le_iff {n : Nat} :
    (ofNat n).length ≤ maxIntDigits ↔ n < 10 ^ maxIntDigits := by
  rw [ofNat, List.length_map]
  exact Nat.length_toDigits_le_iff (by decide) (by decide)

/-- A positive number has no leading zero. By induction on the number without its last digit. -/
theorem head_toDigits_ne_zero {n : Nat} (h : 0 < n) :
    (Nat.toDigits 10 n).head? ≠ some '0' := by
  induction n using Nat.strongRecOn with
  | ind n ih =>
    rw [Nat.toDigits_eq_if (by decide)]
    split
    · have hall : ∀ d : Fin 10, 0 < d.val → Nat.digitChar d.val ≠ '0' := by decide
      simpa using hall ⟨n, ‹_›⟩ h
    -- The first digit is that of the number without its last one, which is positive too.
    · have hdiv := ih (n / 10) (by omega) (by omega)
      rw [List.head?_append]
      cases htail : (Nat.toDigits 10 (n / 10)).head? with
      | none => simp [List.head?_eq_none_iff, Nat.toDigits_ne_nil] at htail
      | some d => simpa [htail] using hdiv

/-- The number zero is the only one whose first digit is a zero. -/
theorem ofNat_eq_cons {n : Nat} {c : CodePoint} {digits : Text} (h : ofNat n = c :: digits) :
    c = CodePoint.ofChar '0' → digits = [] := by
  rintro rfl
  rcases Nat.eq_zero_or_pos n with rfl | hn
  · rw [ofNat, Nat.toDigits_zero] at h
    exact (List.cons.inj h).2.symm
  · refine absurd ?_ (head_toDigits_ne_zero hn)
    cases hd : Nat.toDigits 10 n with
    | nil => exact absurd hd Nat.toDigits_ne_nil
    | cons d tail =>
      rw [ofNat, hd, List.map_cons] at h
      have hval : d.toNat = ('0' : Char).toNat := congrArg CodePoint.val (List.cons.inj h).1
      rw [List.head?_cons, Char.toNat_inj.mp hval]

end Text

namespace Json

/-- Text that may follow a value in a compact document. -/
def Delimited (rest : Text) : Prop :=
  ∀ c ∈ rest.head?, c = CodePoint.ofChar ',' ∨ c = CodePoint.ofChar ']' ∨ c = CodePoint.ofChar '}'

theorem delimited_nil : Delimited [] := by
  simp [Delimited]

theorem delimited_comma (rest : Text) : Delimited (CodePoint.ofChar ',' :: rest) := by
  simp [Delimited]

theorem delimited_bracket (rest : Text) : Delimited (CodePoint.ofChar ']' :: rest) := by
  simp [Delimited]

theorem delimited_brace (rest : Text) : Delimited (CodePoint.ofChar '}' :: rest) := by
  simp [Delimited]

/-- What follows a number begins with no digit. -/
theorem Delimited.head_not_digit {c : CodePoint} {rest : Text} (h : Delimited (c :: rest)) :
    c.isAsciiDigit = false := by
  rcases h c rfl with rfl | rfl | rfl <;> rfl

/-- The digits of a number end where it is delimited. -/
theorem spanDigits_append {digits rest : Text} (hdigits : ∀ c ∈ digits, c.isAsciiDigit = true)
    (hrest : Delimited rest) : spanDigits (digits ++ rest) = (digits, rest) := by
  rw [spanDigits, List.span_eq_takeWhile_dropWhile, List.takeWhile_append_of_pos hdigits,
    List.dropWhile_append_of_pos hdigits]
  -- The span ends where the rest begins, since that is no digit.
  cases rest with
  | nil => simp
  | cons c rest => simp [hrest.head_not_digit]

/-- What follows a number is no fraction of it. -/
theorem fraction?_of_delimited {rest : Text} (h : Delimited rest) : fraction? rest = none := by
  cases rest with
  | nil => rfl
  | cons c rest => rcases h c rfl with rfl | rfl | rfl <;> simp [fraction?, CodePoint.ofChar]

/-- What follows a number is no exponent of it. -/
theorem exponent?_of_delimited {rest : Text} (h : Delimited rest) : exponent? rest = none := by
  cases rest with
  | nil => rfl
  | cons c rest => rcases h c rfl with rfl | rfl | rfl <;> simp [exponent?, CodePoint.ofChar]

/-- The digits of a number and no more are read as the number. -/
theorem readNumber_ofNat (negative : Bool) {n : Nat} {rest : Text}
    (hn : n < 10 ^ Text.maxIntDigits) (hrest : Delimited rest) :
    readNumber negative (Text.ofNat n ++ rest) = .ok (.int (Text.signed negative n), rest) := by
  rw [readNumber, spanDigits_append (fun c hc => Text.isAsciiDigit_of_mem_ofNat hc) hrest]
  -- The reader looks at the first digit to refuse leading zeros.
  cases hdigits : Text.ofNat n with
  | nil => exact absurd hdigits (Text.ofNat_ne_nil n)
  | cons first more =>
    have hmore := Text.ofNat_eq_cons hdigits
    have hlength := Text.length_ofNat_le_iff.mpr hn
    have hvalue := Text.digitsValue_ofNat n
    rw [hdigits] at hlength hvalue
    -- With a leading zero there are no further digits, so both branches take the same run.
    by_cases hzero : first = CodePoint.ofChar '0'
    · obtain rfl := hmore hzero
      simp [hzero ▸ hvalue, hzero, fraction?_of_delimited hrest, exponent?_of_delimited hrest,
        Text.maxIntDigits]
    · simp [hzero, fraction?_of_delimited hrest, exponent?_of_delimited hrest, hvalue,
        List.length_cons ▸ hlength]

/-- A written integer is read back. -/
theorem readScalar_ofInt {n : Int} {rest : Text} (hn : n.natAbs < 10 ^ Text.maxIntDigits)
    (hrest : Delimited rest) : readScalar (Text.ofInt n ++ rest) = .ok (.int n, rest) := by
  cases n with
  | ofNat n =>
    have hread := readNumber_ofNat false (n := n) hn hrest
    cases hdigits : Text.ofNat n with
    | nil => exact absurd hdigits (Text.ofNat_ne_nil n)
    | cons first more =>
      have hdigit : first.isAsciiDigit = true :=
        Text.isAsciiDigit_of_mem_ofNat (hdigits ▸ List.mem_cons_self)
      -- A digit is not the sign.
      have hminus : first ≠ CodePoint.ofChar '-' := by
        rintro rfl
        exact absurd hdigit (by decide)
      simp only [Text.ofInt, hdigits, List.cons_append, readScalar, hminus, false_and, ↓reduceIte,
        hdigit]
      rw [hdigits] at hread
      exact hread
  | negSucc n =>
    have hread := readNumber_ofNat true (n := n + 1) hn hrest
    -- A sign must be followed by digits, or it is not taken.
    have hspan : spanDigits (Text.ofNat (n + 1) ++ rest) = (Text.ofNat (n + 1), rest) :=
      spanDigits_append (fun c hc => Text.isAsciiDigit_of_mem_ofNat hc) hrest
    simp only [Text.ofInt, List.cons_append, readScalar, hspan, true_and, ne_eq,
      Text.ofNat_ne_nil, not_false_eq_true, ↓reduceIte]
    exact hread

end Json

end FleetToken
