import FleetToken.Crypto.Der
import FleetToken.Proofs.Bytes.Number

/-!
# DER read back

What is written in DER is read back, with anything behind it. An element tells how long it is, so
the elements of a sequence come apart again, as long as four bytes can count the bytes of each. A
number is written with the first bit of its first byte clear, and with no more bytes than that
takes, which is what the reader asks for.

## Main results

* `Der.length?_encodeLength`, `Der.element?_encode`: a length and an element.
* `Der.sequence?_encode`: the elements of a sequence.
* `Der.natural?_natural`: a number.
-/

namespace FleetToken.Der

/-! ## Lengths -/

/-- A number fits in its significant bytes. -/
theorem lt_pow_log2 (n : Nat) : n < 0x100 ^ (n.log2 / 8 + 1) := by
  have hpow : 0x100 ^ (n.log2 / 8 + 1) = 2 ^ (8 * (n.log2 / 8 + 1)) := (Nat.pow_mul 2 8 _).symm
  rw [hpow]
  exact Nat.lt_log2_self.trans_le (Nat.pow_le_pow_right (by decide) (by omega))

/-- A number has a byte for each eight of its binary digits. -/
theorem length_significantBytes {n : Nat} (hn : n ≠ 0) :
    (significantBytes n).length = n.log2 / 8 + 1 := by
  rw [significantBytes, if_neg hn, Bytes.length_ofNatBig]

/-- The significant bytes of a number make it up. -/
theorem toNatBig_significantBytes {n : Nat} (hn : n ≠ 0) :
    (significantBytes n).toNatBig = n := by
  rw [significantBytes, if_neg hn, Bytes.toNatBig_ofNatBig (lt_pow_log2 n)]

/-- A length that four bytes can write is read back, whatever follows it. -/
theorem length?_encodeLength {n : Nat} (hn : n < 2 ^ 32) (rest : Bytes) :
    length? (encodeLength n ++ rest) = some (n, rest) := by
  by_cases hshort : n < 0x80
  · have hfirst : (UInt8.ofNat n).toNat = n := by
      rw [UInt8.toNat_ofNat']
      omega
    have hlt : UInt8.ofNat n < 0x80 := UInt8.lt_iff_toNat_lt.mpr (by rw [hfirst]; exact hshort)
    rw [encodeLength, if_pos hshort, List.singleton_append, length?, if_pos hlt, hfirst]
  · have hzero : n ≠ 0 := by omega
    have hlength := length_significantBytes hzero
    have hfour : n.log2 / 8 + 1 ≤ 4 := by
      have hbits : n.log2 < 32 := (Nat.log2_lt hzero).mpr hn
      omega
    -- The first byte tells how many bytes the length takes.
    have hwidth : (UInt8.ofNat (0x80 + (significantBytes n).length)).toNat - 0x80
        = (significantBytes n).length := by
      rw [UInt8.toNat_ofNat', hlength]
      omega
    have hlong : ¬UInt8.ofNat (0x80 + (significantBytes n).length) < 0x80 := by
      simp only [UInt8.lt_iff_toNat_lt, UInt8.toNat_ofNat', UInt8.reduceToNat, hlength]
      omega
    have hencoded : encodeLength n
        = UInt8.ofNat (0x80 + (significantBytes n).length) :: significantBytes n :=
      if_neg hshort
    rw [hencoded, List.cons_append, length?, if_neg hlong]
    simp only [hwidth, List.take_left', List.drop_left', toNatBig_significantBytes hzero]
    rw [if_pos ⟨by omega, hencoded⟩]

/-- A length below `2 ^ 32` is written with at most five bytes. -/
theorem length_encodeLength_le {n : Nat} (hn : n < 2 ^ 32) : (encodeLength n).length ≤ 5 := by
  rw [encodeLength]
  split
  · simp
  · rename_i hlong
    have hzero : n ≠ 0 := by omega
    have hbits : n.log2 < 32 := (Nat.log2_lt hzero).mpr hn
    rw [List.length_cons, length_significantBytes hzero]
    omega

/-! ## Elements -/

/-- An element is read back, whatever follows it. -/
theorem element?_encode {e : Element} (h : e.content.length < 2 ^ 32) (rest : Bytes) :
    element? (e.encode ++ rest) = some (e, rest) := by
  rw [Element.encode, List.cons_append, List.cons_append, List.append_assoc, element?,
    length?_encodeLength h]
  simp

/-- An element is its tag, its length and its content. -/
theorem length_encode (e : Element) :
    e.encode.length = 1 + (encodeLength e.content.length).length + e.content.length := by
  simp only [Element.encode, List.cons_append, List.length_cons, List.length_append]
  omega

/-- Tag and length take at most six bytes. -/
theorem length_encode_le {e : Element} (h : e.content.length < 2 ^ 32) :
    e.encode.length ≤ e.content.length + 6 := by
  have hlength := length_encodeLength_le h
  rw [length_encode]
  omega

/-- Elements one after the other are read as they were written. -/
theorem elementsUpTo?_flatMap_encode {elements : List Element}
    (h : ∀ e ∈ elements, e.content.length < 2 ^ 32) {count : Nat}
    (hcount : elements.length ≤ count) :
    elementsUpTo? count (elements.flatMap Element.encode) = some elements := by
  induction elements generalizing count with
  | nil => cases count <;> rfl
  | cons e elements ih =>
    obtain ⟨count, rfl⟩ := Nat.exists_eq_add_of_le' (Nat.one_le_of_lt hcount)
    have hrest := ih (fun other hother => h other (List.mem_cons_of_mem e hother))
      (Nat.le_of_succ_le_succ hcount)
    rw [List.flatMap_cons, elementsUpTo?, element?_encode (h e List.mem_cons_self)]
    · simp [hrest]
    · simp [Element.encode]

theorem length_le_length_flatMap_encode (elements : List Element) :
    elements.length ≤ (elements.flatMap Element.encode).length := by
  induction elements with
  | nil => exact Nat.le_refl 0
  | cons e elements ih =>
    rw [List.flatMap_cons, List.length_append, List.length_cons, length_encode]
    omega

/-- Elements one after another are read back. -/
theorem elements?_flatMap_encode {elements : List Element}
    (h : ∀ e ∈ elements, e.content.length < 2 ^ 32) :
    elements? (elements.flatMap Element.encode) = some elements :=
  elementsUpTo?_flatMap_encode h (length_le_length_flatMap_encode elements)

theorem length_encode_sequence_le {elements : List Element}
    (h : (elements.flatMap Element.encode).length < 2 ^ 32) :
    (sequence elements).encode.length ≤ (elements.flatMap Element.encode).length + 6 :=
  length_encode_le h

/-- The elements of a sequence are read back. -/
theorem sequence?_encode {elements : List Element}
    (h : (elements.flatMap Element.encode).length < 2 ^ 32) :
    sequence? (sequence elements).encode = some elements := by
  have houter : elements? (sequence elements).encode = some [sequence elements] := by
    have hone : ∀ e ∈ [sequence elements], e.content.length < 2 ^ 32 := by
      simpa [sequence] using h
    simpa using elements?_flatMap_encode hone
  -- An element is no longer than the sequence that it is in.
  have hinner : ∀ e ∈ elements, e.content.length < 2 ^ 32 := by
    intro e he
    have hle : e.encode.length ≤ (elements.flatMap Element.encode).length := by
      rw [List.flatMap_def]
      exact (List.sublist_flatten_of_mem (List.mem_map_of_mem he)).length_le
    rw [length_encode] at hle
    omega
  rw [sequence?, houter]
  exact elements?_flatMap_encode hinner

/-! ## Numbers -/

theorem mul_pow_byte (width : Nat) : 0x80 * 0x100 ^ width = 2 ^ (8 * width + 7) := by
  have hpow : 0x100 ^ width = 2 ^ (8 * width) := (Nat.pow_mul 2 8 width).symm
  rw [hpow, Nat.pow_add, Nat.mul_comm]

/-- A number is written with its first bit clear, and a byte less would not do for that. -/
theorem exists_width_natural (n : Nat) : ∃ width, (natural n).content = Bytes.ofNatBig (width + 1) n
    ∧ n < 0x80 * 0x100 ^ width ∧ ∀ less, width = less + 1 → 0x80 * 0x100 ^ less ≤ n := by
  refine ⟨n.log2 / 8 + if n.log2 % 8 = 7 then 1 else 0, ?_, ?_, fun less hless => ?_⟩
  · rw [natural]
    simp only
    congr 1
    omega
  · rw [mul_pow_byte]
    refine Nat.lt_log2_self.trans_le (Nat.pow_le_pow_right (by decide) ?_)
    split <;> omega
  · have hbits : 8 * less + 7 ≤ n.log2 := by
      split at hless <;> omega
    have hzero : n ≠ 0 := by
      rintro rfl
      rw [Nat.log2_zero] at hbits
      omega
    rw [mul_pow_byte]
    exact (Nat.le_log2 hzero).mp hbits

/-- A number is written with its significant bytes and at most one more. -/
theorem length_content_natural_le (n : Nat) : (natural n).content.length ≤ n.log2 / 8 + 2 := by
  rw [natural, Bytes.length_ofNatBig]
  split <;> omega

section First

variable {b : UInt8} {rest : Bytes}

/-- The first bit of a number is clear if the number is less than half of what its bytes hold. -/
theorem first_lt_of_toNatBig_lt (h : Bytes.toNatBig (b :: rest) < 0x80 * 0x100 ^ rest.length) :
    b < 0x80 := by
  rw [Bytes.toNatBig_cons] at h
  rw [UInt8.lt_iff_toNat_lt]
  by_contra hset
  have hmul : 0x80 * 0x100 ^ rest.length ≤ b.toNat * 0x100 ^ rest.length :=
    Nat.mul_le_mul_right _ (Nat.not_lt.mp hset)
  omega

/-- The first bit of a number is set if the number is at least half of what its bytes hold. -/
theorem le_first_of_le_toNatBig (h : 0x80 * 0x100 ^ rest.length ≤ Bytes.toNatBig (b :: rest)) :
    0x80 ≤ b := by
  rw [Bytes.toNatBig_cons] at h
  rw [UInt8.le_iff_toNat_le]
  by_contra hclear
  have hmul : (b.toNat + 1) * 0x100 ^ rest.length ≤ 0x80 * 0x100 ^ rest.length :=
    Nat.mul_le_mul_right _ (Nat.not_le.mp hclear)
  have hrest := Bytes.toNatBig_lt rest
  rw [Nat.succ_mul] at hmul
  omega

end First

/-- A number is read back. -/
theorem natural?_natural (n : Nat) : natural? (natural n) = some n := by
  obtain ⟨width, hcontent, hlt, hle⟩ := exists_width_natural n
  have hlength := Bytes.length_ofNatBig (width + 1) n
  have hnumber : Bytes.toNatBig (Bytes.ofNatBig (width + 1) n) = n := by
    refine Bytes.toNatBig_ofNatBig ?_
    rw [Nat.pow_succ]
    omega
  rw [natural?, if_neg (fun htag => htag rfl), hcontent]
  generalize Bytes.ofNatBig (width + 1) n = content at hlength hnumber
  cases content with
  | nil => contradiction
  | cons b rest =>
    obtain rfl : rest.length = width := Nat.succ.inj hlength
    have hclear : b < 0x80 := first_lt_of_toNatBig_lt (hnumber ▸ hlt)
    cases rest with
    | nil =>
      obtain rfl : n = b.toNat := by
        simpa [Bytes.toNatBig] using hnumber.symm
      simp [hclear]
    | cons c rest =>
      have hneeded : b ≠ 0 ∨ 0x80 ≤ c := by
        by_contra hneither
        obtain ⟨hb, hc⟩ := not_or.mp hneither
        obtain rfl : b = 0 := not_not.mp hb
        -- Then the number has a byte more than it needs.
        have htail : Bytes.toNatBig (c :: rest) = n := by
          rw [← hnumber, Bytes.toNatBig_zero_cons]
        exact hc (le_first_of_le_toNatBig (htail ▸ hle rest.length rfl))
      simp [hclear, hneeded, hnumber]

end FleetToken.Der
