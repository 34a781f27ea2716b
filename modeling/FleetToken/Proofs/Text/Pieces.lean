import FleetToken.Text.Basic
import Mathlib.Tactic.Common

/-!
# Pieces of a text

Splitting a text at a separator takes nothing from it but the separators, and joining pieces adds
nothing else. So what is no separator stands in a piece if and only if it stands in the text.

## Main results

* `Text.join_split`: the pieces between separators make up the text.
* `Text.mem_split_iff`, `Text.mem_join_iff`: what stands in the pieces of a text.
* `Text.split_append`: the first piece.
* `Text.split_join`: the pieces of joined texts.
-/

namespace FleetToken.Text

variable {sep c : CodePoint} {t front : Text}

/-- There is always a first piece. -/
theorem split_ne_nil (sep : CodePoint) (t : Text) : split sep t ≠ [] := by
  cases t with
  | nil => simp [split]
  | cons c t =>
    rw [split]
    split
    · simp
    · split <;> simp

/-- The pieces between separators make up the text. -/
theorem join_split (sep : CodePoint) (t : Text) : join sep (split sep t) = t := by
  induction t with
  | nil => rfl
  | cons c t ih =>
    rw [split]
    -- There is always a first piece to which a code point can be added.
    cases hpieces : split sep t with
    | nil => exact absurd hpieces (split_ne_nil sep t)
    | cons piece pieces =>
      rw [hpieces] at ih
      -- A separator begins a new piece, and anything else belongs to the first one.
      split
      · rename_i hc
        rw [join, ih, hc]
        · rfl
        · simp
      · cases pieces with
        | nil =>
          rw [join] at ih
          rw [join, ih]
        | cons next pieces =>
          rw [join] at ih
          · rw [join, List.cons_append, ih]
            simp
          · simp

/-- A text without the separator is its only piece. -/
theorem split_of_notMem (h : sep ∉ t) : split sep t = [t] := by
  induction t with
  | nil => rfl
  | cons c t ih =>
    obtain ⟨hne, ht⟩ := not_or.mp (List.mem_cons.not.mp h)
    rw [split, if_neg (Ne.symm hne), ih ht]

/-- A separator ends the pieces before it and begins those behind it. -/
theorem split_append_sep (sep : CodePoint) (front rest : Text) :
    split sep (front ++ sep :: rest) = split sep front ++ split sep rest := by
  induction front with
  | nil => simp [split]
  | cons c front ih =>
    rw [List.cons_append, split, ih, split]
    split
    · rw [List.cons_append]
    · cases hpieces : split sep front with
      | nil => exact absurd hpieces (split_ne_nil sep front)
      | cons piece pieces => rfl

/-- The first piece ends before the first separator. -/
theorem split_append (rest : Text) (h : sep ∉ front) :
    split sep (front ++ sep :: rest) = front :: split sep rest := by
  rw [split_append_sep, split_of_notMem h, List.singleton_append]

/-- The pieces of joined texts are those of each text, one text after another. -/
theorem split_join {parts : List Text} (h : parts ≠ []) :
    split sep (join sep parts) = parts.flatMap (split sep) := by
  induction parts with
  | nil => contradiction
  | cons part parts ih =>
    cases parts with
    | nil => rw [join, List.flatMap_singleton]
    | cons next parts =>
      rw [join, split_append_sep, ih (List.cons_ne_nil _ _), ← List.flatMap_cons]
      exact List.cons_ne_nil next parts

/-- Joining adds separators and nothing else. -/
theorem mem_join_iff (hc : c ≠ sep) {pieces : List Text} :
    c ∈ join sep pieces ↔ ∃ piece ∈ pieces, c ∈ piece := by
  induction pieces with
  | nil => simp [join]
  | cons piece pieces ih =>
    cases pieces with
    | nil => simp [join]
    | cons next pieces =>
      rw [join, List.mem_append, List.mem_cons, ih]
      · simp [hc]
      · simp

/-- No piece has a separator. -/
theorem notMem_of_mem_split {piece : Text} (h : piece ∈ split sep t) : sep ∉ piece := by
  induction t generalizing piece with
  | nil => simp_all [split]
  | cons c t ih =>
    rw [split] at h
    cases hpieces : split sep t with
    | nil => exact absurd hpieces (split_ne_nil sep t)
    | cons first pieces =>
      rw [hpieces] at h ih
      split at h
      · rcases List.mem_cons.mp h with rfl | hpiece
        · exact List.not_mem_nil
        · exact ih hpiece
      · rename_i hc
        -- The code point before the first piece is no separator either.
        rcases List.mem_cons.mp h with rfl | hpiece
        · exact List.not_mem_cons_of_ne_of_not_mem (Ne.symm hc) (ih List.mem_cons_self)
        · exact ih (List.mem_cons_of_mem _ hpiece)

/-- Splitting takes away the separators and nothing else. -/
theorem mem_split_iff : (∃ piece ∈ split sep t, c ∈ piece) ↔ c ∈ t ∧ c ≠ sep := by
  constructor
  · rintro ⟨piece, hpiece, hc⟩
    have hne : c ≠ sep := by
      rintro rfl
      exact notMem_of_mem_split hpiece hc
    have hmem := (mem_join_iff hne).mpr ⟨piece, hpiece, hc⟩
    rw [join_split] at hmem
    exact ⟨hmem, hne⟩
  · rintro ⟨hc, hne⟩
    rw [← join_split sep t] at hc
    exact (mem_join_iff hne).mp hc

end FleetToken.Text
