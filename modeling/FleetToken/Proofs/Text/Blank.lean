import FleetToken.Text.Blank
import Mathlib.Data.List.TakeWhile

/-!
# Trimmed texts

A text loses what satisfies a predicate at its two ends and nothing else. Two texts are trimmed to
the same one if they differ in such code points around them only. A code point in the middle that
does not satisfy the predicate keeps the two ends apart: each side is trimmed by itself.

## Main results

* `Text.mem_trimBy_or`, `Text.trimBy_eq_self_iff`: what is not trimmed off stays.
* `Text.exists_append_trimBy`: what is trimmed off stands around what stays.
* `Text.trim_ne_nil_iff`: when something is left.
* `Text.trimBy_append_cons`: the two sides of a code point that stays.
* `Text.trimBy_append_append`: what is put around a text is trimmed off again.
-/

namespace FleetToken.Text

variable {p : CodePoint → Bool} {c : CodePoint} {t front back : Text}

/-! ## What stays -/

/-- A text is what is left of it with what is trimmed off around it. -/
theorem exists_append_trimBy (p : CodePoint → Bool) (t : Text) :
    ∃ front back, t = front ++ trimBy p t ++ back ∧ (∀ c ∈ front, p c = true)
      ∧ ∀ c ∈ back, p c = true := by
  refine ⟨t.takeWhile p, ((t.dropWhile p).reverse.takeWhile p).reverse, ?_,
    fun c hc => List.mem_takeWhile_imp hc,
    fun c hc => List.mem_takeWhile_imp (List.mem_reverse.mp hc)⟩
  have hend : trimBy p t ++ ((t.dropWhile p).reverse.takeWhile p).reverse = t.dropWhile p := by
    rw [trimBy, trimEndBy, trimStartBy, ← List.reverse_append, List.takeWhile_append_dropWhile,
      List.reverse_reverse]
  rw [List.append_assoc, hend, List.takeWhile_append_dropWhile]

/-- What is not trimmed off stays. -/
theorem mem_trimBy_or (h : c ∈ t) : c ∈ trimBy p t ∨ p c = true := by
  obtain ⟨front, back, ht, hfront, hback⟩ := exists_append_trimBy p t
  rw [ht, List.append_assoc, List.mem_append, List.mem_append] at h
  rcases h with h | h | h
  · exact .inr (hfront c h)
  · exact .inl h
  · exact .inr (hback c h)

/-- Nothing is trimmed off the start unless the first code point is to go. -/
theorem trimStartBy_eq_self_iff : trimStartBy p t = t ↔ ∀ c ∈ t.head?, p c = false := by
  cases t with
  | nil => simp [trimStartBy]
  | cons c t => simp [trimStartBy, List.dropWhile_eq_self_iff]

/-- Trimming makes no text longer. -/
theorem length_trimEndBy_le (p : CodePoint → Bool) (t : Text) :
    (trimEndBy p t).length ≤ t.length := by
  rw [trimEndBy, List.length_reverse]
  exact (List.dropWhile_suffix p).length_le.trans_eq List.length_reverse

/-- Nothing is trimmed off the end unless the last code point is to go. -/
theorem trimEndBy_eq_self_iff : trimEndBy p t = t ↔ ∀ c ∈ t.getLast?, p c = false := by
  rw [← List.head?_reverse, ← trimStartBy_eq_self_iff, ← List.reverse_inj, trimEndBy, trimStartBy,
    List.reverse_reverse]

/-- Nothing is trimmed off if and only if what is trimmed off stands at neither end. -/
theorem trimBy_eq_self_iff :
    trimBy p t = t ↔ (∀ c ∈ t.head?, p c = false) ∧ ∀ c ∈ t.getLast?, p c = false := by
  rw [← trimStartBy_eq_self_iff, ← trimEndBy_eq_self_iff]
  constructor
  · intro h
    have hstart : trimStartBy p t = t := by
      refine (List.dropWhile_suffix p).eq_of_length_le ?_
      calc
        t.length = (trimBy p t).length := by rw [h]
        _ ≤ (trimStartBy p t).length := length_trimEndBy_le p _
    refine ⟨hstart, ?_⟩
    rwa [trimBy, hstart] at h
  · rintro ⟨hstart, hend⟩
    rw [trimBy, hstart, hend]

/-- A text without anything to be trimmed off stays as it is. -/
theorem trimBy_eq_self (h : ∀ c ∈ t, p c = false) : trimBy p t = t :=
  trimBy_eq_self_iff.mpr
    ⟨fun c hc => h c (List.mem_of_mem_head? hc), fun c hc => h c (List.mem_of_mem_getLast? hc)⟩

/-- A text without blanks stays as it is. -/
theorem trim_eq_self (h : ∀ c ∈ t, c.isBlank = false) : trim t = t :=
  trimBy_eq_self h

theorem mem_of_mem_trimStartBy (h : c ∈ trimStartBy p t) : c ∈ t :=
  (List.dropWhile_suffix p).subset h

theorem mem_of_mem_trimEndBy (h : c ∈ trimEndBy p t) : c ∈ t :=
  List.mem_reverse.mp ((List.dropWhile_suffix p).subset (List.mem_reverse.mp h))

/-! ## A code point that stays -/

/-- Before a code point that stays, only the front of a text is trimmed. -/
theorem trimStartBy_append_cons (hc : p c = false) (front back : Text) :
    trimStartBy p (front ++ c :: back) = trimStartBy p front ++ c :: back := by
  rw [trimStartBy, trimStartBy, List.dropWhile_append]
  split
  · rename_i hempty
    rw [List.isEmpty_iff.mp hempty, List.dropWhile_cons_of_neg (by simp [hc]), List.nil_append]
  · rfl

/-- Behind a code point that stays, only the end of a text is trimmed. -/
theorem trimEndBy_append_cons (hc : p c = false) (front back : Text) :
    trimEndBy p (front ++ c :: back) = front ++ c :: trimEndBy p back := by
  have hreverse : (front ++ c :: back).reverse = back.reverse ++ c :: front.reverse := by simp
  have hstart := trimStartBy_append_cons hc back.reverse front.reverse
  rw [trimStartBy, trimStartBy] at hstart
  rw [trimEndBy, hreverse, hstart, trimEndBy]
  simp

/-- A code point that stays keeps the ends of a text apart. -/
theorem trimBy_append_cons (hc : p c = false) (front back : Text) :
    trimBy p (front ++ c :: back) = trimStartBy p front ++ c :: trimEndBy p back := by
  rw [trimBy, trimStartBy_append_cons hc, trimEndBy_append_cons hc]

/-- A text that begins with something else is only trimmed at its end. -/
theorem trimBy_cons (hc : p c = false) (t : Text) : trimBy p (c :: t) = c :: trimEndBy p t :=
  trimBy_append_cons hc [] t

/-! ## What is put around a text -/

/-- Of a text that is all to go nothing is left. -/
theorem trimStartBy_eq_nil (h : ∀ c ∈ t, p c = true) : trimStartBy p t = [] :=
  List.dropWhile_eq_nil_iff.mpr h

/-- Something is left of a text unless it is all blanks. -/
theorem trim_ne_nil_iff : trim t ≠ [] ↔ ∃ c ∈ t, c.isBlank = false := by
  constructor
  · intro h
    by_contra hall
    have hblank : ∀ c ∈ t, c.isBlank = true := by simpa using hall
    rw [trim, trimBy, trimStartBy_eq_nil hblank] at h
    exact h rfl
  · rintro ⟨c, hc, hstays⟩ hempty
    have hmem : c ∈ trim t := (mem_trimBy_or hc).resolve_right (by simp [hstays])
    rw [hempty] at hmem
    contradiction

/-- A front that is to go makes no difference. -/
theorem trimStartBy_append (hfront : ∀ c ∈ front, p c = true) (t : Text) :
    trimStartBy p (front ++ t) = trimStartBy p t :=
  List.dropWhile_append_of_pos hfront

/-- A back that is to go makes no difference. -/
theorem trimEndBy_append (hback : ∀ c ∈ back, p c = true) (t : Text) :
    trimEndBy p (t ++ back) = trimEndBy p t := by
  have hreverse : ∀ c ∈ back.reverse, p c = true := fun c hc => hback c (List.mem_reverse.mp hc)
  rw [trimEndBy, List.reverse_append, List.dropWhile_append_of_pos hreverse, trimEndBy]

/-- What is put around a text is trimmed off again. -/
theorem trimBy_append_append (hfront : ∀ c ∈ front, p c = true) (hback : ∀ c ∈ back, p c = true)
    (t : Text) : trimBy p (front ++ t ++ back) = trimBy p t := by
  rw [List.append_assoc, trimBy, trimStartBy_append hfront]
  by_cases hall : ∀ c ∈ t, p c = true
  -- Then nothing is left of either text.
  · rw [trimStartBy_append hall, trimStartBy_eq_nil hback, trimBy, trimStartBy_eq_nil hall]
  · obtain ⟨c, hc, hstays⟩ : ∃ c ∈ t, p c = false := by simpa using hall
    obtain ⟨before, after, rfl⟩ := List.append_of_mem hc
    rw [List.append_assoc, List.cons_append, trimStartBy_append_cons hstays,
      trimEndBy_append_cons hstays, trimEndBy_append hback, trimBy_append_cons hstays]

/-- What is left of a text is trimmed. -/
theorem trimBy_trimBy (p : CodePoint → Bool) (t : Text) : trimBy p (trimBy p t) = trimBy p t := by
  obtain ⟨front, back, ht, hfront, hback⟩ := exists_append_trimBy p t
  have h := trimBy_append_append hfront hback (trimBy p t)
  rw [← ht] at h
  exact h.symm

end FleetToken.Text
