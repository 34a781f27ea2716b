import FleetToken.Json.Printer
import FleetToken.Json.Reader
import FleetToken.Proofs.Bytes.Hex
import FleetToken.Proofs.Outcome
import Mathlib.Data.List.Chain

/-!
# Strings in JSON text

Every code point of a string is written as itself, as a short escape, or as one or two numeric
ones. The reader finds the same units again, and puts the two halves of a surrogate pair together
wherever they meet. So a string comes back as it was unless it holds the two halves of a pair side
by side as code points of their own.

## Main definitions

* `Text.Unpaired`: no first half of a surrogate pair stands right before a second half.
* `Json.units`: the units that the escape of a code point is read as.

## Main results

* `Text.joinPairs_eq_self_iff`: joining halves leaves the unpaired texts as they are.
* `Json.readString_escaped`: a written string is read back with its halves joined.
-/

namespace FleetToken

theorem CodePoint.isSurrogate_of_isHighSurrogate {c : CodePoint} (h : c.isHighSurrogate = true) :
    c.isSurrogate = true := by
  simp only [isHighSurrogate, isSurrogate, Bool.and_eq_true, decide_eq_true_eq] at h ⊢
  omega

theorem CodePoint.isSurrogate_of_isLowSurrogate {c : CodePoint} (h : c.isLowSurrogate = true) :
    c.isSurrogate = true := by
  simp only [isLowSurrogate, isSurrogate, Bool.and_eq_true, decide_eq_true_eq] at h ⊢
  omega

namespace Text

/-- No first half of a surrogate pair stands right before a second half. -/
def Unpaired (t : Text) : Prop :=
  t.IsChain fun c d => ¬(c.isHighSurrogate = true ∧ d.isLowSurrogate = true)

/-- A text without pairs of halves has none behind its first code point. -/
theorem Unpaired.tail {c : CodePoint} {t : Text} (h : Unpaired (c :: t)) : Unpaired t :=
  List.IsChain.tail h

/-- It does not begin with a pair either. -/
theorem Unpaired.not_pair {c d : CodePoint} {t : Text} (h : Unpaired (c :: d :: t)) :
    ¬(c.isHighSurrogate = true ∧ d.isLowSurrogate = true) :=
  (List.isChain_cons_cons.mp h).1

/-- A text without surrogates has no halves of pairs at all. -/
theorem WellFormed.unpaired {t : Text} (h : t.WellFormed) : t.Unpaired := by
  refine List.isChain_iff_forall_rel_of_append_cons_cons.mpr fun {c d front back} ht hpair => ?_
  -- A first half is a surrogate, and there are none.
  have hc : c.isSurrogate = false := h c (by simp [ht])
  rw [CodePoint.isSurrogate_of_isHighSurrogate hpair.1] at hc
  contradiction

/-- Lean's strings have no surrogates. -/
theorem wellFormed_ofString (s : String) : (ofString s).WellFormed := by
  intro c hc
  obtain ⟨d, -, rfl⟩ := List.mem_map.mp hc
  have hvalid := d.valid
  simp only [UInt32.isValidChar, Nat.isValidChar] at hvalid
  have hval : d.val.toNat = (CodePoint.ofChar d).val := rfl
  rw [hval] at hvalid
  simp only [CodePoint.isSurrogate, Bool.and_eq_false_iff, decide_eq_false_iff_not]
  omega

/-- Character strings hold no surrogates at all. -/
theorem unpaired_ofString (s : String) : (ofString s).Unpaired :=
  (wellFormed_ofString s).unpaired

/-! ## Joined halves -/

/-- Joining halves makes no text longer. -/
theorem length_joinPairs_le (t : Text) : (joinPairs t).length ≤ t.length := by
  fun_induction joinPairs t with
  | case1 => exact Nat.le_refl _
  | case2 c => exact Nat.le_refl _
  | case3 high low rest hpair ih =>
    simp only [List.length_cons]
    omega
  | case4 high low rest hpair ih => exact Nat.succ_le_succ ih

/-- Joining halves leaves a text as it is if and only if there is nothing to join. -/
theorem joinPairs_eq_self_iff {t : Text} : joinPairs t = t ↔ t.Unpaired := by
  fun_induction joinPairs t with
  | case1 => exact ⟨fun _ => List.IsChain.nil, fun _ => rfl⟩
  | case2 c => exact ⟨fun _ => List.IsChain.singleton c, fun _ => rfl⟩
  | case3 high low rest hpair ih =>
    -- The text becomes shorter.
    constructor
    · intro heq
      have hshort := length_joinPairs_le rest
      have hlength := congrArg List.length heq
      simp only [List.length_cons] at hlength
      omega
    · exact fun h => absurd (Bool.and_eq_true_iff.mp hpair) h.not_pair
  | case4 high low rest hpair ih =>
    rw [Bool.and_eq_true_iff] at hpair
    rw [List.cons_inj_right, ih]
    exact ⟨fun h => List.isChain_cons_cons.mpr ⟨hpair, h⟩, Unpaired.tail⟩

end Text

namespace Json

/-! ## Units -/

/-- Whether a code point is written as itself or as a short escape. -/
def isShort (c : CodePoint) : Bool :=
  c = CodePoint.ofChar '\n' ∨ c = CodePoint.ofChar '\r' ∨ c = CodePoint.ofChar '\t' ∨ c.val = 0x08
    ∨ c.val = 0x0C ∨ (0x20 ≤ c.val ∧ c.val < 0x7F)

/-- The first half of the surrogate pair of a code point beyond U+FFFF. -/
def highHalf (c : CodePoint) : CodePoint :=
  .ofNat (0xD800 + (c.val - 0x10000) / 0x400)

/-- The second half of the surrogate pair of a code point beyond U+FFFF. -/
def lowHalf (c : CodePoint) : CodePoint :=
  .ofNat (0xDC00 + (c.val - 0x10000) % 0x400)

/-- The units that the escape of a code point is read as. -/
def units (c : CodePoint) : List Unit16 :=
  if c.val < 0x10000 then [(!isShort c, c)] else [(true, highHalf c), (true, lowHalf c)]

theorem val_highHalf (c : CodePoint) :
    (highHalf c).val = 0xD800 + (c.val - 0x10000) / 0x400 := by
  have hc := c.isLt
  exact CodePoint.val_ofNat (by omega)

theorem val_lowHalf (c : CodePoint) :
    (lowHalf c).val = 0xDC00 + (c.val - 0x10000) % 0x400 :=
  CodePoint.val_ofNat (by omega)

theorem isHighSurrogate_highHalf (c : CodePoint) : (highHalf c).isHighSurrogate = true := by
  have hc := c.isLt
  rw [CodePoint.isHighSurrogate, val_highHalf, Bool.and_eq_true_iff, decide_eq_true_eq,
    decide_eq_true_eq]
  omega

theorem isLowSurrogate_highHalf (c : CodePoint) : (highHalf c).isLowSurrogate = false := by
  have hc := c.isLt
  rw [CodePoint.isLowSurrogate, val_highHalf, Bool.and_eq_false_iff, decide_eq_false_iff_not]
  omega

theorem isLowSurrogate_lowHalf (c : CodePoint) : (lowHalf c).isLowSurrogate = true := by
  rw [CodePoint.isLowSurrogate, val_lowHalf, Bool.and_eq_true_iff, decide_eq_true_eq,
    decide_eq_true_eq]
  omega

/-- The halves of a pair stand for the code point that they were made from. -/
theorem ofPair_halves {c : CodePoint} (h : 0x10000 ≤ c.val) :
    CodePoint.ofPair (highHalf c) (lowHalf c) = c := by
  have hc := c.isLt
  have hval : 0x10000 + (0xD800 + (c.val - 0x10000) / 0x400 - 0xD800) * 0x400
      + (0xDC00 + (c.val - 0x10000) % 0x400 - 0xDC00) = c.val := by omega
  rw [CodePoint.ofPair, val_highHalf, val_lowHalf, hval, CodePoint.ofNat_val]

/-- A unit that does not begin a pair stands for its own code point. -/
theorem joinUnits_cons {escaped : Bool} {c : CodePoint} {rest : List Unit16}
    (h : ∀ u ∈ rest.head?, ¬(c.isHighSurrogate = true ∧ u.2.isLowSurrogate = true)) :
    joinUnits ((escaped, c) :: rest) = c :: joinUnits rest := by
  cases rest with
  | nil => rfl
  | cons u rest =>
    obtain ⟨escaped', d⟩ := u
    have hpair := h (escaped', d) rfl
    rw [joinUnits, if_neg]
    simp only [Bool.and_eq_true, and_assoc]
    rintro ⟨-, -, hhigh, hlow⟩
    exact hpair ⟨hhigh, hlow⟩

/-- The first unit of a code point ends no pair that the code point itself would not end. -/
theorem head_units {c : CodePoint} {u : Unit16} (h : u ∈ (units c).head?) :
    u.2.isLowSurrogate = true → c = u.2 := by
  rw [units] at h
  split at h
  · obtain rfl := Option.some.inj h
    exact fun _ => rfl
  · obtain rfl := Option.some.inj h
    intro hlow
    rw [isLowSurrogate_highHalf] at hlow
    contradiction

/-- A text begins with the units of its first code point. -/
theorem head_flatMap_units {d : CodePoint} {t : Text} {u : Unit16}
    (h : u ∈ ((d :: t).flatMap units).head?) : u ∈ (units d).head? := by
  rw [List.flatMap_cons, List.head?_append] at h
  rw [units] at h ⊢
  split at h
  · rwa [if_pos ‹_›]
  · rwa [if_neg ‹_›]

/-- A surrogate is one unit, written as a numeric escape. -/
theorem units_of_isSurrogate {c : CodePoint} (h : c.isSurrogate = true) :
    units c = [(true, c)] := by
  rw [CodePoint.isSurrogate, Bool.and_eq_true_iff, decide_eq_true_eq, decide_eq_true_eq] at h
  have hshort : isShort c = false := by
    have hne {d : CodePoint} (hd : d.val < 0x80) : c ≠ d := by
      rintro rfl
      omega
    simp only [isShort, decide_eq_false_iff_not, not_or]
    exact ⟨hne (by decide), hne (by decide), hne (by decide), by omega, by omega, by omega⟩
  rw [units, if_pos (by omega), hshort]
  rfl

/-- The units of a text are joined to the text with its halves joined. The cases are those of the
joining: within a code point the halves are always joined, and from one code point to the next if
these are halves. -/
theorem joinUnits_units (t : Text) : joinUnits (t.flatMap units) = t.joinPairs := by
  -- A code point that begins no pair with the next one stands for itself.
  have hcons (c : CodePoint) (rest : Text)
      (hrest : joinUnits (rest.flatMap units) = rest.joinPairs)
      (hpair : ∀ d ∈ rest.head?, ¬(c.isHighSurrogate = true ∧ d.isLowSurrogate = true)) :
      joinUnits ((c :: rest).flatMap units) = c :: rest.joinPairs := by
    rw [List.flatMap_cons]
    by_cases hc : c.val < 0x10000
    · rw [units, if_pos hc, List.singleton_append, joinUnits_cons, hrest]
      intro u hu hunits
      cases rest with
      | nil => exact absurd hu (by simp)
      | cons d rest =>
        obtain rfl := head_units (head_flatMap_units hu) hunits.2
        exact hpair _ rfl hunits
    · rw [units, if_neg hc, List.cons_append, List.singleton_append, joinUnits, if_pos, hrest,
        ofPair_halves (by omega)]
      simp [isHighSurrogate_highHalf, isLowSurrogate_lowHalf]
  fun_induction Text.joinPairs t with
  | case1 => rfl
  | case2 c => exact hcons c [] rfl (by simp)
  | case3 high low rest hpair ih =>
    obtain ⟨hhigh, hlow⟩ := Bool.and_eq_true_iff.mp hpair
    have hfirst := units_of_isSurrogate (CodePoint.isSurrogate_of_isHighSurrogate hhigh)
    have hsecond := units_of_isSurrogate (CodePoint.isSurrogate_of_isLowSurrogate hlow)
    rw [List.flatMap_cons, List.flatMap_cons, hfirst, hsecond, List.singleton_append,
      List.singleton_append, joinUnits, if_pos, ih]
    simp [hhigh, hlow]
  | case4 high low rest hpair ih =>
    refine hcons high (low :: rest) ih fun d hd => ?_
    obtain rfl := Option.some.inj hd
    rwa [Bool.and_eq_true_iff] at hpair

/-! ## Escapes -/

theorem hexDigits_four (n : Nat) :
    Text.hexDigits 4 n = [.hexDigit (n / 16 / 16 / 16 % 16), .hexDigit (n / 16 / 16 % 16),
      .hexDigit (n / 16 % 16), .hexDigit (n % 16)] := rfl

/-- Four digits are read as the unit that they write. -/
theorem hexUnit?_hexDigits {n : Nat} (h : n < 0x10000) :
    hexUnit? (.hexDigit (n / 16 / 16 / 16 % 16)) (.hexDigit (n / 16 / 16 % 16))
      (.hexDigit (n / 16 % 16)) (.hexDigit (n % 16)) = some (.ofNat n) := by
  have hdigit (m : Nat) : (CodePoint.hexDigit (m % 16)).hexValue? = some (m % 16) :=
    CodePoint.hexValue?_hexDigit _ (Nat.mod_lt m (by decide))
  have hvalue : ((n / 16 / 16 / 16 % 16 * 16 + n / 16 / 16 % 16) * 16 + n / 16 % 16) * 16 + n % 16
      = n := by omega
  simp [hexUnit?, hdigit, hvalue]

/-- A numeric escape is read as its unit. -/
theorem readUnits_escapeUnit {n : Nat} {rest after : Text} {found : List Unit16} (h : n < 0x10000)
    (hrest : readUnits rest = .ok (found, after)) :
    readUnits (escapeUnit n ++ rest) = .ok ((true, .ofNat n) :: found, after) := by
  have hshape : escapeUnit n ++ rest = CodePoint.ofChar '\\' :: CodePoint.ofChar 'u'
      :: .hexDigit (n / 16 / 16 / 16 % 16) :: .hexDigit (n / 16 / 16 % 16)
      :: .hexDigit (n / 16 % 16) :: .hexDigit (n % 16) :: rest := rfl
  rw [hshape, readUnits]
  simp only [hexUnit?_hexDigits h, hrest]
  rfl

/-- A short escape is read as its code point. -/
theorem readUnits_shortEscape {e c : CodePoint} {rest after : Text} {found : List Unit16}
    (he : e ≠ CodePoint.ofChar 'u') (hc : shortEscape? e = some c)
    (hrest : readUnits rest = .ok (found, after)) :
    readUnits (CodePoint.ofChar '\\' :: e :: rest) = .ok ((false, c) :: found, after) := by
  rw [readUnits.eq_def]
  simp only [he, hc, hrest]
  rfl

/-- The escape of a code point is read as its units. The cases are those of the writer. -/
theorem readUnits_escape (c : CodePoint) {rest after : Text} {found : List Unit16}
    (hrest : readUnits rest = .ok (found, after)) :
    readUnits (escape c ++ rest) = .ok (units c ++ found, after) := by
  rw [escape]
  -- A quote or a backslash, each escaped by itself.
  split
  · rename_i h
    rcases h with rfl | rfl
    · exact readUnits_shortEscape (by decide) rfl hrest
    · exact readUnits_shortEscape (by decide) rfl hrest
  -- The three blanks that have letters of their own.
  split
  · subst c
    exact readUnits_shortEscape (by decide) rfl hrest
  split
  · subst c
    exact readUnits_shortEscape (by decide) rfl hrest
  split
  · subst c
    exact readUnits_shortEscape (by decide) rfl hrest
  -- The two control characters that have letters of their own.
  split
  · rename_i h
    obtain rfl : c = .ofNat 0x08 := CodePoint.eq_of_val_eq h
    exact readUnits_shortEscape (by decide) rfl hrest
  split
  · rename_i h
    obtain rfl : c = .ofNat 0x0C := CodePoint.eq_of_val_eq h
    exact readUnits_shortEscape (by decide) rfl hrest
  -- Printable code points are written as they are.
  split
  · rename_i hspecial _ _ _ _ _ hprintable
    obtain ⟨hquote, hslash⟩ := not_or.mp hspecial
    have hunits : units c = [(false, c)] := by
      have hlt : c.val < 0x10000 := by omega
      simp [units, hlt, isShort, hprintable]
    rw [hunits, List.singleton_append, readUnits.eq_def]
    simp only [List.cons_append, List.nil_append]
    simp only [hquote, hslash, show ¬ c.val < 0x20 by omega, ↓reduceIte, hrest]
    rfl
  -- Any other code point below U+10000 is one numeric escape, and one beyond it is two.
  split
  · rename_i _ hnewline hreturn htab hback hfeed hprintable hlt
    have hunits : units c = [(true, c)] := by
      simp [units, hlt, isShort, hnewline, hreturn, htab, hback, hfeed, hprintable]
    have hread := readUnits_escapeUnit hlt hrest
    rw [CodePoint.ofNat_val] at hread
    rw [hunits, hread]
    rfl
  · rename_i hge
    have hc := c.isLt
    have hlow := readUnits_escapeUnit (n := 0xDC00 + (c.val - 0x10000) % 0x400) (by omega) hrest
    have hhigh := readUnits_escapeUnit (n := 0xD800 + (c.val - 0x10000) / 0x400) (by omega) hlow
    rw [List.append_assoc, hhigh, units, if_neg hge]
    rfl

/-- A written string is read as the units of its code points, up to the closing quote. -/
theorem readUnits_flatMap_escape (t rest : Text) :
    readUnits (t.flatMap escape ++ CodePoint.ofChar '"' :: rest)
      = .ok (t.flatMap units, rest) := by
  induction t with
  | nil =>
    rw [readUnits.eq_def]
    rfl
  | cons c t ih =>
    rw [List.flatMap_cons, List.flatMap_cons, List.append_assoc]
    exact readUnits_escape c ih

/-- A written string is read back with its halves joined. -/
theorem readString_escaped (t rest : Text) :
    readString (t.flatMap escape ++ CodePoint.ofChar '"' :: rest) = .ok (t.joinPairs, rest) := by
  rw [readString, readUnits_flatMap_escape, ok_bind]
  simp only [joinUnits_units]
  rfl

/-! ## What is written is printable -/

/-- An escape is made of printable ASCII. -/
theorem escape_printable (c : CodePoint) : ∀ d ∈ escape c, 0x20 ≤ d.val ∧ d.val < 0x7F := by
  have hdigit : ∀ n < 16,
      0x20 ≤ (CodePoint.hexDigit n).val ∧ (CodePoint.hexDigit n).val < 0x7F := by
    decide
  -- A numeric escape is a backslash, a letter and four hexadecimal digits.
  have hunit (n : Nat) : ∀ d ∈ escapeUnit n, 0x20 ≤ d.val ∧ d.val < 0x7F := by
    intro d hd
    rcases List.mem_append.mp hd with hd | hd
    · have hprefix : ∀ d ∈ Text.ofString "\\u", 0x20 ≤ d.val ∧ d.val < 0x7F := by decide
      exact hprefix d hd
    · rw [hexDigits_four] at hd
      simp only [List.mem_cons, List.not_mem_nil, or_false] at hd
      rcases hd with rfl | rfl | rfl | rfl <;> exact hdigit _ (Nat.mod_lt _ (by decide))
  rw [escape]
  split
  · rename_i h
    rcases h with rfl | rfl <;> decide
  split
  · decide
  split
  · decide
  split
  · decide
  split
  · decide
  split
  · decide
  split
  · simpa
  split
  · exact hunit _
  · intro d hd
    rcases List.mem_append.mp hd with hd | hd
    · exact hunit _ d hd
    · exact hunit _ d hd

end Json

end FleetToken
