import FleetToken.Bytes.Basic
import Mathlib.Data.List.Chain
import Mathlib.Tactic.Common

/-!
# Parts of bytes

Bytes hold a part if it stands somewhere among them, and they are the blocks that they are cut into.

## Main results

* `Bytes.includes_iff`: when bytes hold a part.
* `Bytes.flatten_blocks`: blocks put together again.
-/

namespace FleetToken.Bytes

/-! ## Parts -/

/-- What follows a front is the rest of bytes that begin with it. -/
theorem after?_eq_some_iff {front bytes rest : Bytes} :
    after? front bytes = some rest ↔ bytes = front ++ rest := by
  induction front generalizing bytes with
  | nil => simp [after?, eq_comm]
  | cons f front ih =>
    cases bytes with
    | nil => simp [after?]
    | cons b bytes =>
      rw [after?]
      split
      · rename_i hb
        simp [ih, hb]
      · rename_i hb
        simp [Ne.symm hb]

/-- Bytes hold a part if they begin with it from some place on. -/
theorem includes_iff {part bytes : Bytes} : includes part bytes = true ↔ part <:+: bytes := by
  have hfront (bytes : Bytes) : (after? part bytes).isSome ↔ part <+: bytes := by
    simp only [Option.isSome_iff_exists, after?_eq_some_iff, List.IsPrefix, eq_comm (a := bytes)]
  induction bytes with
  | nil => simp [includes]
  | cons b bytes ih => simp only [includes, Bool.or_eq_true, hfront, ih, List.infix_cons_iff]

/-- Bytes do not hold a part with two bytes side by side that are never so in them. -/
theorem not_includes_of_isChain {part bytes : Bytes} {r : UInt8 → UInt8 → Prop}
    (hbytes : bytes.IsChain r) (hpart : ¬part.IsChain r) : includes part bytes = false := by
  rw [← Bool.not_eq_true, includes_iff]
  intro h
  have hchain : part.IsChain r := List.IsChain.infix hbytes h
  exact hpart hchain

/-- Where one byte never stands right behind another one, it still does not with bytes put between
that it is not among. -/
theorem isChain_between {a b : UInt8} {front bytes back : Bytes}
    (hfront : front.IsChain fun c d => ¬(c = a ∧ d = b)) (h : b ∉ bytes)
    (hback : back.IsChain fun c d => ¬(c = a ∧ d = b)) (hhead : back.head? ≠ some b) :
    (front ++ (bytes ++ back)).IsChain fun c d => ¬(c = a ∧ d = b) := by
  have hbytes : bytes.IsChain fun c d => ¬(c = a ∧ d = b) := by
    refine (List.pairwise_of_forall_mem_list ?_).isChain
    rintro c - d hd ⟨-, rfl⟩
    exact h hd
  have hnext : (bytes ++ back).head? ≠ some b := by
    cases bytes with
    | nil => exact hhead
    | cons first rest =>
      intro hfirst
      exact h (Option.some.inj hfirst ▸ List.mem_cons_self)
  refine hfront.append (hbytes.append hback ?_) ?_
  · rintro c - d hd ⟨-, rfl⟩
    exact hhead hd
  · rintro c - d hd ⟨-, rfl⟩
    exact hnext hd

/-! ## Blocks -/

variable {size count : Nat} {bytes : Bytes}

/-- Blocks one after the other are the bytes that they were cut from. -/
theorem flatten_blocks_go (hsize : 0 < size) (hcount : bytes.length ≤ count) :
    (blocks.go size count bytes).flatten = bytes := by
  induction count generalizing bytes with
  | zero =>
    rw [List.length_eq_zero_iff.mp (Nat.le_zero.mp hcount), blocks.go, List.flatten_nil]
  | succ count ih =>
    cases bytes with
    | nil => rfl
    | cons b bytes =>
      have hrest : ((b :: bytes).drop size).length ≤ count := by
        rw [List.length_drop, List.length_cons] at *
        omega
      rw [blocks.go, List.flatten_cons, ih hrest, List.take_append_drop]
      simp

/-- The blocks put together are the bytes. -/
theorem flatten_blocks (hsize : 0 < size) (bytes : Bytes) : (blocks size bytes).flatten = bytes :=
  flatten_blocks_go hsize (Nat.le_refl _)

/-- No block is empty. -/
theorem ne_nil_of_mem_blocks (hsize : 0 < size) {block : Bytes} (h : block ∈ blocks size bytes) :
    block ≠ [] := by
  rw [blocks] at h
  generalize bytes.length = count at h
  induction count generalizing bytes with
  | zero => simp [blocks.go] at h
  | succ count ih =>
    cases bytes with
    | nil => simp [blocks.go] at h
    | cons b bytes =>
      rw [blocks.go, List.mem_cons] at h
      · rcases h with rfl | h
        · obtain ⟨size, rfl⟩ := Nat.exists_eq_add_of_le' hsize
          simp
        · exact ih h
      · simp

end FleetToken.Bytes
