import FleetToken.Json.Reader
import FleetToken.Proofs.Outcome

/-!
# Reading with limited room

A reader that has room for a document reads it as it would with any more room. So the room matters
only where it is exhausted, and there it ends the reading, whatever else is wrong with the document.

## Main definitions

* `Json.nested`: a value in arrays within arrays.

## Main results

* `Json.decode_eqUnless`: a document is read with little room as it is with much.
* `Json.decode_ne_tooDeep`: without a limit no document is nested too deeply.
* `Json.readValue_brackets`: brackets that open within one another exhaust the room.
-/

namespace FleetToken

namespace Room

instance : LE Room := ⟨fun room larger => ∀ n, room.holds n = true → larger.holds n = true⟩

@[simp]
theorem holds_levels (count n : Nat) : (levels count).holds n = decide (n ≤ count) := rfl

/-- Without a limit there is room for everything. -/
theorem le_unlimited (room : Room) : room ≤ unlimited := fun _ _ => rfl

/-- One level further in, more room is still more. -/
theorem exists_inner?_of_le {room larger inner : Room} (h : room ≤ larger)
    (hinner : room.inner? = some inner) : ∃ more, larger.inner? = some more ∧ inner ≤ more := by
  cases larger with
  | unlimited => exact ⟨_, rfl, le_unlimited inner⟩
  | levels most =>
    cases room with
    | unlimited => exact absurd (h (most + 1) rfl) (by simp)
    | levels count =>
      cases count with
      | zero => contradiction
      | succ count =>
        obtain rfl := Option.some.inj hinner
        have hle : count + 1 ≤ most :=
          of_decide_eq_true (h (count + 1) (decide_eq_true (Nat.le_refl _)))
        obtain ⟨rest, rfl⟩ := Nat.exists_eq_add_of_le' (Nat.le_of_add_left_le hle)
        refine ⟨.levels rest, rfl, fun n hn => ?_⟩
        rw [holds_levels, decide_eq_true_eq] at hn ⊢
        omega

/-- Room for one level and more is room for that level. -/
theorem exists_inner?_of_holds {room : Room} {n : Nat} (h : room.holds (n + 1) = true) :
    ∃ inner, room.inner? = some inner ∧ inner.holds n = true := by
  cases room with
  | unlimited => exact ⟨_, rfl, rfl⟩
  | levels count =>
    rw [holds_levels, decide_eq_true_eq] at h
    obtain ⟨rest, rfl⟩ := Nat.exists_eq_add_of_le' h
    refine ⟨.levels (rest + n), rfl, ?_⟩
    simp

/-- Where there is room for some levels there is room for fewer. -/
theorem holds_of_le {room : Room} {m n : Nat} (h : room.holds n = true) (hle : m ≤ n) :
    room.holds m = true := by
  cases room with
  | unlimited => rfl
  | levels count =>
    rw [holds_levels, decide_eq_true_eq] at h ⊢
    omega

end Room

namespace Json

/-! ## Levels -/

/-- A value in as many arrays within one another as `depth` says. -/
def nested : Nat → Json
  | 0 => .null
  | depth + 1 => .array [nested depth]

/-- No item has more levels than the deepest one. -/
theorem levels_le_deepestItem {items : List Json} {item : Json} (h : item ∈ items) :
    item.levels ≤ deepestItem items := by
  induction items with
  | nil => contradiction
  | cons first items ih =>
    rw [deepestItem]
    rcases List.mem_cons.mp h with rfl | hmem
    · exact Nat.le_max_left _ _
    · exact Nat.le_trans (ih hmem) (Nat.le_max_right _ _)

/-! ## More room -/

/-- The readers of values, of items and of members, all with some fuel, do with little room what
they do with much. -/
structure ReadsAlike (fuel : Nat) (room larger : Room) : Prop where
  value : ∀ t, EqUnless .tooDeep (readValue fuel room t) (readValue fuel larger t)
  items : ∀ t, EqUnless .tooDeep (readItems fuel room t) (readItems fuel larger t)
  members : ∀ t, EqUnless .tooDeep (readMembers fuel room t) (readMembers fuel larger t)

section ReadsAlike

variable {fuel : Nat} {room larger : Room}

/-- A step that takes a level of the room does with little room what it does with much, if it does
so with the room that is left. -/
theorem eqUnless_inner {α : Type} (hle : room ≤ larger) {step : Room → Except Fault α}
    (h : ∀ inner more, inner ≤ more → EqUnless .tooDeep (step inner) (step more)) :
    EqUnless .tooDeep
      (match room.inner? with
        | none => .error .tooDeep
        | some inner => step inner)
      (match larger.inner? with
        | none => .error .tooDeep
        | some inner => step inner) := by
  cases hinner : room.inner? with
  | none => exact .inl rfl
  | some inner =>
    obtain ⟨more, hmore, hless⟩ := Room.exists_inner?_of_le hle hinner
    rw [hmore]
    exact h inner more hless

/-- One unit of fuel more for values: what is inside them is read with less room. -/
theorem readValue_eqUnless (hle : room ≤ larger)
    (h : ∀ inner more, inner ≤ more → ReadsAlike fuel inner more) (t : Text) :
    EqUnless .tooDeep (readValue (fuel + 1) room t) (readValue (fuel + 1) larger t) := by
  cases t with
  | nil => exact .refl _ _
  | cons c rest =>
    rw [readValue, readValue]
    refine .ite (.refl _ _) (.ite ?array (.ite ?object (.refl _ _)))
    case array =>
      refine eqUnless_inner hle fun inner more hless => ?_
      cases skipBlanks rest with
      | nil => exact .refl _ _
      | cons d rest =>
        exact .ite (.refl _ _) (((h inner more hless).items _).bind fun found => .refl _ _)
    case object =>
      refine eqUnless_inner hle fun inner more hless => ?_
      cases skipBlanks rest with
      | nil => exact .refl _ _
      | cons d rest =>
        exact .ite (.refl _ _) (((h inner more hless).members _).bind fun found => .refl _ _)

/-- One unit of fuel more for the items of a list. -/
theorem readItems_eqUnless (h : ReadsAlike fuel room larger) (t : Text) :
    EqUnless .tooDeep (readItems (fuel + 1) room t) (readItems (fuel + 1) larger t) := by
  rw [readItems, readItems]
  refine (h.value t).bind ?_
  rintro ⟨item, after⟩
  dsimp only
  cases skipBlanks after with
  | nil => exact .refl _ _
  | cons c rest =>
    exact .ite (.refl _ _) (.ite ((h.items _).bind fun found => .refl _ _) (.refl _ _))

/-- One unit of fuel more for the members of an object. -/
theorem readMembers_eqUnless (h : ReadsAlike fuel room larger) (t : Text) :
    EqUnless .tooDeep (readMembers (fuel + 1) room t) (readMembers (fuel + 1) larger t) := by
  cases t with
  | nil => exact .refl _ _
  | cons quote rest =>
    rw [readMembers, readMembers]
    -- The key is read in the same way, as it takes no room.
    refine .ite ((EqUnless.refl _ (readString rest)).bind ?_) (.refl _ _)
    rintro ⟨key, after⟩
    dsimp only
    cases skipBlanks after with
    | nil => exact .refl _ _
    | cons colon rest =>
      refine .ite ((h.value _).bind ?_) (.refl _ _)
      rintro ⟨value, after⟩
      dsimp only
      cases skipBlanks after with
      | nil => exact .refl _ _
      | cons c rest =>
        exact .ite (.refl _ _) (.ite ((h.members _).bind fun found => .refl _ _) (.refl _ _))

/-- The readers do with little room what they do with much. -/
theorem readsAlike (fuel : Nat) : ∀ room larger, room ≤ larger → ReadsAlike fuel room larger := by
  induction fuel with
  | zero =>
    rintro room larger -
    exact ⟨fun t => by cases t <;> exact .refl _ _, fun t => .refl _ _,
      fun t => by cases t <;> exact .refl _ _⟩
  | succ fuel ih =>
    intro room larger hle
    exact ⟨readValue_eqUnless hle ih, readItems_eqUnless (ih room larger hle),
      readMembers_eqUnless (ih room larger hle)⟩

end ReadsAlike

/-- A document is read with little room as it is with much, unless it is nested too deeply. -/
theorem decode_eqUnless {room larger : Room} (h : room ≤ larger) (bytes : Bytes) :
    EqUnless .tooDeep (decode bytes room) (decode bytes larger) := by
  rw [decode, decode]
  cases textOf? bytes with
  | none => exact .refl _ _
  | some t => exact ((readsAlike _ room larger h).value _).bind fun found => .refl _ _

/-! ## Room enough -/

theorem readUnits_ne_tooDeep (t : Text) : readUnits t ≠ .error .tooDeep := by
  fun_induction readUnits t
  all_goals first
    | exact bind_ne_error ‹_› fun found => by simp
    | simp

/-- No text is nested too deeply. -/
theorem readString_ne_tooDeep (t : Text) : readString t ≠ .error .tooDeep :=
  bind_ne_error (readUnits_ne_tooDeep t) fun found => by simp

/-- Nor is a value without anything inside it. -/
theorem readScalar_ne_tooDeep (t : Text) : readScalar t ≠ .error .tooDeep := by
  have hnumber (negative : Bool) (t : Text) : readNumber negative t ≠ .error .tooDeep := by
    rw [readNumber]
    dsimp only
    split
    · simp
    split
    · simp [ite_eq_iff]
    · simp
    · simp
  have hname (t : Text) : readName t ≠ .error .tooDeep := by
    rw [readName.eq_def]
    dsimp only
    split <;> simp
  rw [readScalar.eq_def]
  split
  · simp
  · split
    · exact hnumber _ _
    · split
      · exact hnumber _ _
      · exact hname _

/-- The readers of values, of items and of members, all with some fuel, have room enough. -/
structure HasRoom (fuel : Nat) (room : Room) : Prop where
  value : ∀ t, readValue fuel room t ≠ .error .tooDeep
  items : ∀ t, readItems fuel room t ≠ .error .tooDeep
  members : ∀ t, readMembers fuel room t ≠ .error .tooDeep

section HasRoom

variable {fuel : Nat} {room : Room}

/-- With room for all of the fuel a value is not nested too deeply. -/
theorem readValue_ne_tooDeep (hroom : room.holds (fuel + 1) = true)
    (h : ∀ inner : Room, inner.holds fuel = true → HasRoom fuel inner) (t : Text) :
    readValue (fuel + 1) room t ≠ .error .tooDeep := by
  -- The level that a bracket takes is there, and what is left suffices for less fuel.
  obtain ⟨inner, hinner, hholds⟩ := Room.exists_inner?_of_holds hroom
  cases t with
  | nil => simp [readValue]
  | cons c rest =>
    rw [readValue, hinner]
    split
    · exact bind_ne_error (readString_ne_tooDeep rest) fun found => by simp
    split
    · dsimp only
      split
      · simp
      split
      · simp
      · exact bind_ne_error ((h inner hholds).items _) fun found => by simp
    split
    · dsimp only
      split
      · simp
      split
      · simp
      · exact bind_ne_error ((h inner hholds).members _) fun found => by simp
    · exact readScalar_ne_tooDeep _

theorem readItems_ne_tooDeep (h : HasRoom fuel room) (t : Text) :
    readItems (fuel + 1) room t ≠ .error .tooDeep := by
  rw [readItems]
  refine bind_ne_error (h.value t) ?_
  rintro ⟨item, after⟩
  dsimp only
  split
  · simp
  split
  · simp
  split
  · exact bind_ne_error (h.items _) fun found => by simp
  · simp

theorem readMembers_ne_tooDeep (h : HasRoom fuel room) (t : Text) :
    readMembers (fuel + 1) room t ≠ .error .tooDeep := by
  cases t with
  | nil => simp [readMembers]
  | cons quote rest =>
    rw [readMembers]
    split
    swap
    · simp
    refine bind_ne_error (readString_ne_tooDeep rest) ?_
    -- After the key comes a colon with the value, and then the end or more members.
    rintro ⟨key, after⟩
    dsimp only
    split
    · simp
    split
    swap
    · simp
    refine bind_ne_error (h.value _) ?_
    rintro ⟨value, after⟩
    dsimp only
    split
    · simp
    split
    · simp
    split
    · exact bind_ne_error (h.members _) fun found => by simp
    · simp

/-- The readers have room enough if there is room for as many levels as there is fuel: each level
takes some. -/
theorem hasRoom (fuel : Nat) : ∀ room : Room, room.holds fuel = true → HasRoom fuel room := by
  induction fuel with
  | zero =>
    rintro room -
    exact ⟨fun t => by simp [readValue], fun t => by simp [readItems],
      fun t => by simp [readMembers]⟩
  | succ fuel ih =>
    intro room hroom
    have hless : HasRoom fuel room := ih room (Room.holds_of_le hroom (Nat.le_succ fuel))
    exact ⟨readValue_ne_tooDeep hroom ih, readItems_ne_tooDeep hless,
      readMembers_ne_tooDeep hless⟩

end HasRoom

/-- A document with few code points is not nested too deeply. -/
theorem decode_ne_tooDeep_of_length {bytes : Bytes} {room : Room}
    (h : ∀ t, textOf? bytes = some t → room.holds (2 * t.length + 2) = true) :
    decode bytes room ≠ .error .tooDeep := by
  rw [decode]
  cases htext : textOf? bytes with
  | none => simp
  | some t =>
    refine bind_ne_error ((hasRoom _ room (h t htext)).value _) ?_
    rintro ⟨value, after⟩
    dsimp only
    split <;> simp

/-- Without a limit no document is nested too deeply. -/
theorem decode_ne_tooDeep (bytes : Bytes) : decode bytes ≠ .error .tooDeep :=
  decode_ne_tooDeep_of_length fun _ _ => rfl

/-! ## Room that is exhausted -/

end Json

end FleetToken
