import FleetToken.Proofs.Json.Members
import FleetToken.Proofs.Json.Number
import FleetToken.Proofs.Json.Room
import FleetToken.Proofs.Json.String

/-!
# JSON documents read back

A value without floating-point numbers is read back from its compact form, when its integers are
short enough to be read, and the keys of each object are unpaired and all different. Wherever the
two halves of a surrogate pair stand side by side in a string they come back as one code point. So
the value comes back as it was if its strings are unpaired.

## Main definitions

* `Json.joinHalves`: a value with the halves of surrogate pairs joined.
* `Json.Unpaired`: the values in which there are none to join.
* `Json.Readable`: the values that are read back with their halves joined.
* `Json.Lossless`: the values that come back as they were.

## Main results

* `Json.joinHalves_eq_self_iff`: joining halves leaves the unpaired values as they are.
* `Json.readValue_compact`: a value is read at the front of a text and no more is taken.
* `Json.Readable.decode_compact_of_holds`: the bytes of a compact document are read as its joined
  value, with room for its levels.
* `Json.decode_compact`: the bytes of a compact document are read as its value.
-/

namespace FleetToken.Json

/-! ## Joined halves -/

mutual

/-- A value with the halves of surrogate pairs in its strings joined. Keys stay as they are. -/
def joinHalves : Json → Json
  | .string t => .string t.joinPairs
  | .array items => .array (joinItems items)
  | .object members => .object (joinMembers members)
  | .null => .null
  | .bool b => .bool b
  | .int n => .int n
  | .float x => .float x

/-- The items of an array with their halves joined. -/
def joinItems : List Json → List Json
  | [] => []
  | item :: items => item.joinHalves :: joinItems items

/-- The members of an object with the halves in their values joined. -/
def joinMembers : List (Text × Json) → List (Text × Json)
  | [] => []
  | (key, value) :: members => (key, value.joinHalves) :: joinMembers members

end

/-- No string in the value has the two halves of a surrogate pair side by side. -/
inductive Unpaired : Json → Prop where
  | null : Unpaired .null
  | bool (b : Bool) : Unpaired (.bool b)
  | int (n : Int) : Unpaired (.int n)
  | float (x : Binary64) : Unpaired (.float x)
  | string {t : Text} (ht : t.Unpaired) : Unpaired (.string t)
  | array {items : List Json} (hitems : ∀ item ∈ items, Unpaired item) : Unpaired (.array items)
  | object {members : Members} (hvalues : ∀ member ∈ members, Unpaired member.2) :
      Unpaired (.object members)

/-- Joining halves in an object is joining them in all of its values. -/
theorem joinMembers_eq_map (members : Members) :
    joinMembers members = members.map fun member => (member.1, member.2.joinHalves) := by
  induction members with
  | nil => rfl
  | cons member members ih =>
    obtain ⟨key, value⟩ := member
    rw [joinMembers, ih, List.map_cons]

/-- The keys of an object stay as they are. -/
theorem keys_joinMembers (members : Members) :
    Members.keys (joinMembers members) = members.keys := by
  rw [joinMembers_eq_map, Members.keys, List.map_map]
  rfl

/-- Under a key stands what stood there, with its halves joined. -/
theorem get?_joinMembers (members : Members) (key : Text) :
    Members.get? (joinMembers members) key = (members.get? key).map joinHalves := by
  induction members with
  | nil => rfl
  | cons member members ih =>
    obtain ⟨name, value⟩ := member
    rw [joinMembers, Members.get?_cons, Members.get?_cons, ih]
    split <;> rfl

mutual

/-- Joining halves leaves a value as it is if and only if there is nothing to join. -/
theorem joinHalves_eq_self_iff : ∀ value : Json, value.joinHalves = value ↔ value.Unpaired
  | .null => ⟨fun _ => .null, fun _ => rfl⟩
  | .bool b => ⟨fun _ => .bool b, fun _ => rfl⟩
  | .int n => ⟨fun _ => .int n, fun _ => rfl⟩
  | .float x => ⟨fun _ => .float x, fun _ => rfl⟩
  | .string t => by
    rw [joinHalves, Json.string.injEq, Text.joinPairs_eq_self_iff]
    exact ⟨.string, fun h => by cases h; assumption⟩
  | .array items => by
    rw [joinHalves, Json.array.injEq, joinItems_eq_self_iff items]
    exact ⟨.array, fun h => by cases h; assumption⟩
  | .object members => by
    rw [joinHalves, Json.object.injEq, joinMembers_eq_self_iff members]
    exact ⟨.object, fun h => by cases h; assumption⟩

/-- Nothing is joined in a list if nothing is in any item. -/
theorem joinItems_eq_self_iff :
    ∀ items : List Json, joinItems items = items ↔ ∀ item ∈ items, item.Unpaired
  | [] => by simp [joinItems]
  | item :: items => by
    rw [joinItems, List.cons.injEq, joinHalves_eq_self_iff item, joinItems_eq_self_iff items,
      List.forall_mem_cons]

/-- Nothing is joined in an object if nothing is in any value. -/
theorem joinMembers_eq_self_iff : ∀ members : List (Text × Json),
    joinMembers members = members ↔ ∀ member ∈ members, member.2.Unpaired
  | [] => by simp [joinMembers]
  | (key, value) :: members => by
    rw [joinMembers, List.cons.injEq, Prod.mk.injEq, joinHalves_eq_self_iff value,
      joinMembers_eq_self_iff members, List.forall_mem_cons]
    simp

end

/-! ## Values that are read back -/

/-- A value that is read back from its compact form, with its halves joined. -/
inductive Readable : Json → Prop where
  | null : Readable .null
  | bool (b : Bool) : Readable (.bool b)
  | int {n : Int} (hn : n.natAbs < 10 ^ Text.maxIntDigits) : Readable (.int n)
  | string (t : Text) : Readable (.string t)
  | array {items : List Json} (hitems : ∀ item ∈ items, Readable item) : Readable (.array items)
  | object {members : Members} (hkeys : members.keys.Nodup)
      (hunpaired : ∀ member ∈ members, member.1.Unpaired)
      (hvalues : ∀ member ∈ members, Readable member.2) : Readable (.object members)

/-- A value that is read back from its compact form. -/
inductive Lossless : Json → Prop where
  | null : Lossless .null
  | bool (b : Bool) : Lossless (.bool b)
  | int {n : Int} (hn : n.natAbs < 10 ^ Text.maxIntDigits) : Lossless (.int n)
  | string {t : Text} (ht : t.Unpaired) : Lossless (.string t)
  | array {items : List Json} (hitems : ∀ item ∈ items, Lossless item) : Lossless (.array items)
  | object {members : Members} (hkeys : members.keys.Nodup)
      (hunpaired : ∀ member ∈ members, member.1.Unpaired)
      (hvalues : ∀ member ∈ members, Lossless member.2) : Lossless (.object members)

/-- What JSON text carries unchanged can be read. -/
theorem Lossless.readable {value : Json} (h : Lossless value) : Readable value := by
  induction h with
  | null => exact .null
  | bool b => exact .bool b
  | int hn => exact .int hn
  | string ht => exact .string _
  | array _ ih => exact .array ih
  | object hkeys hunpaired _ ih => exact .object hkeys hunpaired ih

/-- What JSON text carries unchanged has no halves side by side. -/
theorem Lossless.unpaired {value : Json} (h : Lossless value) : Unpaired value := by
  induction h with
  | null => exact .null
  | bool b => exact .bool b
  | int hn => exact .int _
  | string ht => exact .string ht
  | array _ ih => exact .array ih
  | object _ _ _ ih => exact .object ih

/-- An object whose keys are given as strings, which hold no surrogates. -/
theorem lossless_named (entries : List (String × Json))
    (hnames : (entries.map fun entry => Text.ofString entry.1).Nodup)
    (hvalues : ∀ entry ∈ entries, Lossless entry.2) :
    Lossless (.object (entries.map fun entry => (Text.ofString entry.1, entry.2))) := by
  refine .object ?_ ?_ ?_
  · rw [Members.keys, List.map_map]
    exact hnames
  · intro member hmember
    obtain ⟨entry, -, rfl⟩ := List.mem_map.mp hmember
    exact Text.unpaired_ofString entry.1
  · intro member hmember
    obtain ⟨entry, hentry, rfl⟩ := List.mem_map.mp hmember
    exact hvalues entry hentry

/-- An object with one member. -/
theorem lossless_singleton (name : String) {value : Json} (hvalue : value.Lossless) :
    Lossless (.object [(Text.ofString name, value)]) :=
  lossless_named [(name, value)] (by simp) (by simpa using hvalue)

/-- Integers of up to twenty digits are short enough to be read. -/
theorem lossless_int {n : Int} (hn : n.natAbs < 10 ^ 20) : (Json.int n).Lossless :=
  .int (Nat.lt_of_lt_of_le hn (Nat.pow_le_pow_right (by decide) (by decide)))

theorem lossless_ofString (s : String) : (Json.string (Text.ofString s)).Lossless :=
  .string (Text.unpaired_ofString s)

/-! ## What is written is printable -/

/-- All code points of the text are printable ASCII. -/
def Printable (t : Text) : Prop :=
  ∀ c ∈ t, 0x20 ≤ c.val ∧ c.val < 0x7F

theorem Printable.append {s t : Text} (hs : Printable s) (ht : Printable t) :
    Printable (s ++ t) := by
  intro c hc
  rcases List.mem_append.mp hc with hc | hc
  · exact hs c hc
  · exact ht c hc

theorem Printable.cons {c : CodePoint} {t : Text} (hc : 0x20 ≤ c.val ∧ c.val < 0x7F)
    (ht : Printable t) : Printable (c :: t) :=
  Printable.append (s := [c]) (by simpa [Printable] using hc) ht

/-- Printable text is ASCII. -/
theorem Printable.isAscii {t : Text} (h : Printable t) : t.IsAscii := by
  intro c hc
  have := (h c hc).2
  omega

theorem printable_ofNat (n : Nat) : Printable (Text.ofNat n) := by
  intro c hc
  have hdigit := Text.isAsciiDigit_of_mem_ofNat hc
  rw [CodePoint.isAsciiDigit, Bool.and_eq_true_iff, decide_eq_true_eq, decide_eq_true_eq] at hdigit
  omega

theorem printable_ofInt (n : Int) : Printable (Text.ofInt n) := by
  cases n with
  | ofNat n => exact printable_ofNat n
  | negSucc n => exact Printable.cons (by decide) (printable_ofNat (n + 1))

/-- A text is written in printable ASCII, all else in escapes. -/
theorem printable_compactString (t : Text) : Printable (compactString t) := by
  refine Printable.append (Printable.cons (by decide) fun c hc => ?_) (by simp [Printable])
  obtain ⟨d, -, hd⟩ := List.mem_flatMap.mp hc
  exact escape_printable d c hd

theorem printable_compactItems {items : List Json} (h : ∀ item ∈ items, Printable (compact item)) :
    Printable (compactItems items) := by
  induction items with
  | nil => simp [Printable, compactItems]
  | cons item items ih =>
    have hitem := h item List.mem_cons_self
    cases items with
    | nil => exact hitem
    | cons next items =>
      have hrest := ih fun i hi => h i (List.mem_cons_of_mem item hi)
      exact hitem.append (hrest.cons (by decide))

theorem printable_compactMember {member : Text × Json} (h : Printable (compact member.2)) :
    Printable (compactMember member) := by
  rw [compactMember]
  exact (printable_compactString member.1).append (h.cons (by decide))

theorem printable_compactMembers {members : Members}
    (h : ∀ member ∈ members, Printable (compact member.2)) :
    Printable (compactMembers members) := by
  induction members with
  | nil => simp [Printable, compactMembers]
  | cons member members ih =>
    have hmember := printable_compactMember (h member List.mem_cons_self)
    cases members with
    | nil => exact hmember
    | cons next members =>
      have hrest := ih fun m hm => h m (List.mem_cons_of_mem member hm)
      exact hmember.append (hrest.cons (by decide))

/-- Readable values are written in printable ASCII. -/
theorem Readable.printable {value : Json} (h : Readable value) : Printable (compact value) := by
  induction h with
  | null =>
    rw [compact, Printable]
    decide
  | bool b =>
    cases b <;> rw [compact, Printable] <;> decide
  | int _ => exact printable_ofInt _
  | string _ => exact printable_compactString _
  | array _ ih =>
    exact Printable.append ((printable_compactItems ih).cons (by decide)) (by simp [Printable])
  | object _ _ _ ih =>
    exact Printable.append ((printable_compactMembers ih).cons (by decide)) (by simp [Printable])

/-! ## What is read back is written -/

/-- An integer can be written up to the limit on digits. -/
theorem isWritable_int_iff {n : Int} :
    (Json.int n).isWritable = true ↔ n.natAbs < 10 ^ Text.maxIntDigits := by
  rw [Json.isWritable, decide_eq_true_eq, Text.length_ofNat_le_iff]

/-- A list can be written if all items can. -/
theorem isWritable_array_iff {items : List Json} :
    (Json.array items).isWritable = true ↔ ∀ item ∈ items, item.isWritable = true := by
  rw [isWritable]
  induction items with
  | nil => simp [areItemsWritable]
  | cons item items ih =>
    rw [areItemsWritable, Bool.and_eq_true_iff, ih, List.forall_mem_cons]

/-- An object can be written if all values can. -/
theorem isWritable_object_iff {members : Members} :
    (Json.object members).isWritable = true ↔ ∀ member ∈ members, member.2.isWritable = true := by
  rw [isWritable]
  induction members with
  | nil => simp [areMembersWritable]
  | cons member members ih =>
    rw [areMembersWritable, Bool.and_eq_true_iff, ih, List.forall_mem_cons]

/-- What JSON text carries unchanged can be written. -/
theorem Lossless.isWritable {value : Json} (h : Lossless value) : value.isWritable = true := by
  induction h with
  | null => rfl
  | bool _ => rfl
  | int hn => exact isWritable_int_iff.mpr hn
  | string _ => rfl
  | array _ ih => exact isWritable_array_iff.mpr ih
  | object _ _ _ ih => exact isWritable_object_iff.mpr ih

/-! ## The front of a value -/

theorem skipBlanks_cons {c : CodePoint} (rest : Text) (h : isJsonBlank c = false) :
    skipBlanks (c :: rest) = c :: rest := by
  simp [skipBlanks, h]

/-- A text whose first code point is neither a blank nor a closing bracket. -/
def Opens (t : Text) : Prop :=
  ∃ c rest, t = c :: rest ∧ isJsonBlank c = false ∧ c ≠ CodePoint.ofChar ']'

/-- A number begins with no blank, bracket or brace. -/
theorem opens_ofNat (n : Nat) : Opens (Text.ofNat n) := by
  cases h : Text.ofNat n with
  | nil => exact absurd h (Text.ofNat_ne_nil n)
  | cons c rest =>
    have hdigit : c.isAsciiDigit = true :=
      Text.isAsciiDigit_of_mem_ofNat (h ▸ List.mem_cons_self)
    refine ⟨c, rest, rfl, ?_, ?_⟩
    · rw [CodePoint.isAsciiDigit, Bool.and_eq_true_iff, decide_eq_true_eq] at hdigit
      have hge := hdigit.1
      simp only [isJsonBlank, Bool.or_eq_false_iff, beq_eq_false_iff_ne]
      omega
    · rintro rfl
      exact absurd hdigit (by decide)

/-- What is written for a value begins with no blank, and with nothing that ends a list or an
object. -/
theorem Readable.opens {value : Json} (h : Readable value) : Opens (compact value) := by
  cases h with
  | null => exact ⟨_, _, rfl, by decide, by decide⟩
  | bool b =>
    cases b with
    | true => exact ⟨_, _, rfl, by decide, by decide⟩
    | false => exact ⟨_, _, rfl, by decide, by decide⟩
  | @int n hn =>
    -- The front is a digit or a sign.
    cases n with
    | ofNat n => exact opens_ofNat n
    | negSucc n => exact ⟨_, _, rfl, by decide, by decide⟩
  | string t => exact ⟨_, _, rfl, by decide, by decide⟩
  | array hitems => exact ⟨_, _, rfl, by decide, by decide⟩
  | object hkeys hunpaired hvalues => exact ⟨_, _, rfl, by decide, by decide⟩

/-- Only the front of a text matters for how it opens. -/
theorem Opens.append {t : Text} (h : Opens t) (rest : Text) : Opens (t ++ rest) := by
  obtain ⟨c, front, rfl, hblank, hclose⟩ := h
  exact ⟨c, front ++ rest, rfl, hblank, hclose⟩

/-- There are no blanks to be skipped at the front. -/
theorem Opens.skipBlanks {t : Text} (h : Opens t) : skipBlanks t = t := by
  obtain ⟨c, front, rfl, hblank, -⟩ := h
  exact skipBlanks_cons front hblank

theorem compactItems_cons_cons (item next : Json) (items : List Json) :
    compactItems (item :: next :: items)
      = compact item ++ CodePoint.ofChar ',' :: compactItems (next :: items) := rfl

theorem compactMembers_cons_cons (member next : Text × Json) (members : Members) :
    compactMembers (member :: next :: members)
      = compactMember member ++ CodePoint.ofChar ',' :: compactMembers (next :: members) := rfl

theorem opens_compactItems {item : Json} {items : List Json} (h : Opens (compact item)) :
    Opens (compactItems (item :: items)) := by
  cases items with
  | nil => exact h
  | cons next items => exact h.append _

theorem opens_compactMembers (member : Text × Json) (members : Members) :
    Opens (compactMembers (member :: members)) := by
  have h : Opens (compactMember member) := by
    rw [compactMember]
    exact ⟨_, _, rfl, by decide, by decide⟩
  cases members with
  | nil => exact h
  | cons next members => exact h.append _

/-! ## Reading back -/

/-- The value is read at the front of its compact form before any text that may follow it, with
room for its levels and fuel for twice the length. Its halves come back joined. -/
def ReadsBack (value : Json) : Prop :=
  ∀ rest fuel (room : Room), Delimited rest → 2 * (compact value).length ≤ fuel →
    room.holds value.levels = true →
    readValue fuel room (compact value ++ rest) = .ok (value.joinHalves, rest)

/-- The items of an array are read up to the closing bracket, if each of them is read. -/
theorem readItems_compactItems {items : List Json} (hne : items ≠ [])
    (hread : ∀ item ∈ items, ReadsBack item) (hopens : ∀ item ∈ items, Opens (compact item))
    {room : Room} (hroom : room.holds (deepestItem items) = true) (rest : Text) :
    ∀ fuel, 2 * (compactItems items).length + 1 ≤ fuel →
      readItems fuel room (compactItems items ++ CodePoint.ofChar ']' :: rest)
        = .ok (joinItems items, rest) := by
  induction items with
  | nil => exact absurd rfl hne
  | cons item items ih =>
    rintro (- | fuel) hfuel
    · omega
    have hitem := hread item List.mem_cons_self
    have hitemRoom := Room.holds_of_le hroom (levels_le_deepestItem List.mem_cons_self)
    cases items with
    | nil =>
      -- The last item is followed by the closing bracket.
      rw [readItems, compactItems, hitem _ _ _ (delimited_bracket rest) (by
        rw [compactItems] at hfuel; omega) hitemRoom, ok_bind]
      simp only [skipBlanks_cons rest (show isJsonBlank (CodePoint.ofChar ']') = false by decide)]
      rfl
    | cons next items =>
      -- Any other item is followed by a comma, and then by the front of the next one.
      have hrest := ih (by simp) (fun i hi => hread i (List.mem_cons_of_mem item hi))
        (fun i hi => hopens i (List.mem_cons_of_mem item hi))
        (Room.holds_of_le hroom (Nat.le_max_right _ _))
      have hnext : Opens (compactItems (next :: items)) :=
        opens_compactItems (hopens next (List.mem_cons_of_mem item List.mem_cons_self))
      rw [compactItems_cons_cons, List.length_append, List.length_cons] at hfuel
      rw [readItems, compactItems_cons_cons, List.append_assoc, List.cons_append,
        hitem _ _ _ (delimited_comma _) (by omega) hitemRoom, ok_bind]
      simp only [skipBlanks_cons _ (show isJsonBlank (CodePoint.ofChar ',') = false by decide),
        show CodePoint.ofChar ',' ≠ CodePoint.ofChar ']' by decide, ↓reduceIte,
        (hnext.append _).skipBlanks, hrest fuel (by omega)]
      rfl

/-- The members of an object are read up to the closing brace, if each of their values is read. -/
theorem readMembers_compactMembers {members : Members} (hne : members ≠ [])
    (hread : ∀ member ∈ members, ReadsBack member.2)
    (hopens : ∀ member ∈ members, Opens (compact member.2))
    (hunpaired : ∀ member ∈ members, member.1.Unpaired) {room : Room}
    (hroom : room.holds (deepestMember members) = true) (rest : Text) :
    ∀ fuel, 2 * (compactMembers members).length + 1 ≤ fuel →
      readMembers fuel room (compactMembers members ++ CodePoint.ofChar '}' :: rest)
        = .ok (joinMembers members, rest) := by
  induction members with
  | nil => exact absurd rfl hne
  | cons member members ih =>
    obtain ⟨key, value⟩ := member
    rintro (- | fuel) hfuel
    · omega
    have hvalue : ReadsBack value := hread (key, value) List.mem_cons_self
    have hvalueRoom : room.holds value.levels = true :=
      Room.holds_of_le hroom (Nat.le_max_left _ _)
    have hvalueOpens : Opens (compact value) := hopens (key, value) List.mem_cons_self
    have hkey : key.joinPairs = key :=
      Text.joinPairs_eq_self_iff.mpr (hunpaired (key, value) List.mem_cons_self)
    -- A member is its key up to the closing quote, a colon, and its value.
    have hmember (after : Text) : compactMember (key, value) ++ after = CodePoint.ofChar '"'
        :: (key.flatMap escape
          ++ CodePoint.ofChar '"' :: CodePoint.ofChar ':' :: (compact value ++ after)) := by
      simp [compactMember, compactString]
    have hcolon (after : Text) :
        skipBlanks (CodePoint.ofChar ':' :: after) = CodePoint.ofChar ':' :: after :=
      skipBlanks_cons after (by decide)
    -- The fuel is counted by the whole member, of which the value is a part.
    have hlength : (compact value).length ≤ (compactMember (key, value)).length := by
      simp only [compactMember, List.length_append, List.length_cons]
      omega
    cases members with
    | nil =>
      rw [compactMembers] at hfuel
      rw [compactMembers, hmember, readMembers, if_pos rfl, readString_escaped, ok_bind, hkey]
      simp only [hcolon, ↓reduceIte, (hvalueOpens.append _).skipBlanks]
      rw [hvalue _ _ _ (delimited_brace rest) (by omega) hvalueRoom, ok_bind]
      simp only [skipBlanks_cons rest (show isJsonBlank (CodePoint.ofChar '}') = false by decide)]
      rfl
    | cons next members =>
      have hrest := ih (by simp) (fun m hm => hread m (List.mem_cons_of_mem _ hm))
        (fun m hm => hopens m (List.mem_cons_of_mem _ hm))
        (fun m hm => hunpaired m (List.mem_cons_of_mem _ hm))
        (Room.holds_of_le hroom (Nat.le_max_right _ _))
      have hnext := opens_compactMembers next members
      rw [compactMembers_cons_cons, List.length_append, List.length_cons] at hfuel
      rw [compactMembers_cons_cons, List.append_assoc, List.cons_append, hmember, readMembers,
        if_pos rfl, readString_escaped, ok_bind, hkey]
      simp only [hcolon, ↓reduceIte, (hvalueOpens.append _).skipBlanks]
      rw [hvalue _ _ _ (delimited_comma _) (by omega) hvalueRoom, ok_bind]
      simp only [skipBlanks_cons _ (show isJsonBlank (CodePoint.ofChar ',') = false by decide),
        show CodePoint.ofChar ',' ≠ CodePoint.ofChar '}' by decide, ↓reduceIte,
        (hnext.append _).skipBlanks, hrest fuel (by omega)]
      rfl

/-- A number is read back; its first code point is that of no string, array or object. -/
theorem readsBack_int {n : Int} (hn : n.natAbs < 10 ^ Text.maxIntDigits) : ReadsBack (.int n) := by
  intro rest fuel room hrest hfuel _
  have hread := readScalar_ofInt hn hrest
  obtain ⟨c, front, hfront, hfirst⟩ : ∃ c front, Text.ofInt n = c :: front ∧
      (c = CodePoint.ofChar '-' ∨ c.isAsciiDigit = true) := by
    cases n with
    | ofNat n =>
      cases hdigits : Text.ofNat n with
      | nil => exact absurd hdigits (Text.ofNat_ne_nil n)
      | cons c front =>
        exact ⟨c, front, hdigits, .inr (Text.isAsciiDigit_of_mem_ofNat (hdigits ▸
          List.mem_cons_self))⟩
    | negSucc n => exact ⟨_, _, rfl, .inl rfl⟩
  -- So the reader passes over its cases for strings, arrays and objects.
  have hother : c ≠ CodePoint.ofChar '"' ∧ c ≠ CodePoint.ofChar '[' ∧ c ≠ CodePoint.ofChar '{' := by
    rcases hfirst with rfl | hdigit
    · decide
    · refine ⟨?_, ?_, ?_⟩ <;> rintro rfl <;> exact absurd hdigit (by decide)
  rw [compact, hfront] at hfuel ⊢
  rw [hfront, List.cons_append] at hread
  cases fuel with
  | zero => simp at hfuel
  | succ fuel =>
    rw [List.cons_append, readValue, if_neg hother.1, if_neg hother.2.1, if_neg hother.2.2, hread,
      joinHalves]

/-- A value that is read back is read at the front of a text and no more is taken. -/
theorem readValue_compact {value : Json} (h : Readable value) : ReadsBack value := by
  induction h with
  | null =>
    rintro rest (- | fuel) room - hfuel -
    · simp [compact, Text.ofString] at hfuel
    · rfl
  | bool b =>
    rintro rest (- | fuel) room - hfuel -
    · cases b <;> simp [compact, Text.ofString] at hfuel
    · cases b <;> rfl
  | int hn => exact readsBack_int hn
  | string t =>
    rintro rest (- | fuel) room - hfuel -
    · simp [compact, compactString] at hfuel
    · have hshape : compact (.string t) ++ rest = CodePoint.ofChar '"'
          :: (t.flatMap escape ++ CodePoint.ofChar '"' :: rest) := by
        simp [compact, compactString]
      rw [hshape, readValue, if_pos rfl, readString_escaped]
      rfl
  | @array items hitems ih =>
    rintro rest (- | fuel) room - hfuel hroom
    · simp [compact] at hfuel
    obtain ⟨inner, hinner, hinnerRoom⟩ := Room.exists_inner?_of_holds hroom
    have hshape : compact (.array items) ++ rest = CodePoint.ofChar '['
        :: (compactItems items ++ CodePoint.ofChar ']' :: rest) := by
      simp [compact]
    rw [hshape, readValue, if_neg (by decide), if_pos rfl, hinner]
    -- An empty array is a case of its own in the reader.
    cases items with
    | nil => rfl
    | cons item items =>
      have hopens : Opens (compactItems (item :: items)) :=
        opens_compactItems (hitems item List.mem_cons_self).opens
      have hlength : 2 * (compactItems (item :: items)).length + 1 ≤ fuel := by
        simp only [compact, List.length_append, List.length_cons] at hfuel
        omega
      have hread := readItems_compactItems (List.cons_ne_nil item items) ih
        (fun i hi => (hitems i hi).opens) hinnerRoom rest fuel hlength
      simp only [(hopens.append _).skipBlanks]
      -- The first item does not begin like the end of the array.
      obtain ⟨c, front, hfront, -, hclose⟩ := hopens
      rw [hfront, List.cons_append] at hread ⊢
      simp only [if_neg hclose, hread]
      rfl
  | @object members hkeys hunpaired hvalues ih =>
    rintro rest (- | fuel) room - hfuel hroom
    · simp [compact] at hfuel
    obtain ⟨inner, hinner, hinnerRoom⟩ := Room.exists_inner?_of_holds hroom
    have hshape : compact (.object members) ++ rest = CodePoint.ofChar '{'
        :: (compactMembers members ++ CodePoint.ofChar '}' :: rest) := by
      simp [compact]
    rw [hshape, readValue, if_neg (by decide), if_neg (by decide), if_pos rfl, hinner]
    cases members with
    | nil => rfl
    | cons member members =>
      have hopens := opens_compactMembers member members
      have hlength : 2 * (compactMembers (member :: members)).length + 1 ≤ fuel := by
        simp only [compact, List.length_append, List.length_cons] at hfuel
        omega
      have hread := readMembers_compactMembers (List.cons_ne_nil member members) ih
        (fun m hm => (hvalues m hm).opens) hunpaired hinnerRoom rest fuel hlength
      -- The members begin with a quote, which is neither a blank nor the end of the object.
      simp only [(hopens.append _).skipBlanks]
      obtain ⟨front, hfront⟩ : ∃ front,
          compactMembers (member :: members) = CodePoint.ofChar '"' :: front := by
        cases members with
        | nil => exact ⟨_, by rw [compactMembers, compactMember, compactString]; rfl⟩
        | cons next members =>
          exact ⟨_, by rw [compactMembers_cons_cons, compactMember, compactString]; rfl⟩
      rw [hfront, List.cons_append] at hread ⊢
      -- Different keys are all kept when the members are put in.
      rw [← keys_joinMembers] at hkeys
      simp only [show CodePoint.ofChar '"' ≠ CodePoint.ofChar '}' by decide, ↓reduceIte, hread,
        ok_bind, Members.ofList_of_nodup hkeys]
      rfl

/-- Where there is room for its levels, what is written for a value is read as this value with its
halves joined. -/
theorem parse_compact {value : Json} (h : Readable value) {room : Room}
    (hroom : room.holds value.levels = true) :
    parse (compact value) room = .ok value.joinHalves := by
  have hread := readValue_compact h [] (2 * (compact value).length + 2) room delimited_nil
    (Nat.le_add_right _ 2) hroom
  rw [List.append_nil] at hread
  rw [parse, h.opens.skipBlanks, hread]
  rfl

/-- No mark stands in front of bytes that do not hold its first byte. -/
theorem after?_eq_none {first : UInt8} {mark bytes : Bytes} (h : first ∉ bytes) :
    Bytes.after? (first :: mark) bytes = none := by
  cases bytes with
  | nil => rfl
  | cons b bytes =>
    have hne : first ≠ b := fun he => h (he ▸ List.mem_cons_self)
    rw [Bytes.after?, if_neg hne]

/-- Printable bytes show no other encoding than UTF-8. -/
theorem textOf?_printable {t : Text} (h : Printable t) : textOf? t.toUtf8 = some t := by
  have hbytes : ∀ b ∈ t.toUtf8, b ≠ 0 ∧ b < 0x80 := by
    intro b hb
    refine ⟨?_, Text.toUtf8_lt h.isAscii b hb⟩
    rw [Text.toUtf8_eq_map h.isAscii] at hb
    obtain ⟨c, hc, rfl⟩ := List.mem_map.mp hb
    obtain ⟨hlow, hhigh⟩ := h c hc
    intro hzero
    have hval := congrArg UInt8.toNat hzero
    simp only [UInt8.toNat_ofNat', UInt8.toNat_zero] at hval
    omega
  rw [← Text.ofUtf8?_toUtf8 true h.isAscii]
  generalize t.toUtf8 = bytes at hbytes
  -- Every mark begins with a zero byte or with a byte beyond ASCII.
  have hzero : (0 : UInt8) ∉ bytes := fun hb => (hbytes 0 hb).1 rfl
  have hbeyond {b : UInt8} (hb : ¬b < 0x80) : b ∉ bytes := fun hmem => hb (hbytes b hmem).2
  have hmarks : (byteOrderMarks.findSome? fun marked =>
      (Bytes.after? marked.1 bytes).map marked.2) = none := by
    simp only [byteOrderMarks, List.findSome?_cons, List.findSome?_nil, after?_eq_none hzero,
      after?_eq_none (hbeyond (b := 0xFF) (by decide)),
      after?_eq_none (hbeyond (b := 0xFE) (by decide)),
      after?_eq_none (hbeyond (b := 0xEF) (by decide)), Option.map_none]
  have hunmarked : textOf? bytes = unmarkedTextOf? bytes :=
    congrArg (Option.getD · (unmarkedTextOf? bytes)) hmarks
  rw [hunmarked, unmarkedTextOf?.eq_def]
  split
  · rename_i a b c d rest
    rw [if_neg (hbytes a (by simp)).1, if_neg (hbytes b (by simp)).1]
  · rename_i a b
    rw [if_neg (hbytes a (by simp)).1, if_neg (hbytes b (by simp)).1]
  · rfl

/-- The bytes of a compact document are read as its value with the halves joined, with room for the
levels of the value. -/
theorem Readable.decode_compact_of_holds {value : Json} (h : Readable value) {room : Room}
    (hroom : room.holds value.levels = true) :
    decode (compact value).toUtf8 room = .ok value.joinHalves := by
  rw [decode, textOf?_printable h.printable]
  exact parse_compact h hroom

/-- The same as bytes, and without a limit. -/
theorem Readable.decode_compact {value : Json} (h : Readable value) :
    decode (compact value).toUtf8 = .ok value.joinHalves :=
  h.decode_compact_of_holds rfl

/-- The bytes of a compact document are read as its value, if there is nothing to join. -/
theorem decode_compact {value : Json} (h : Lossless value) :
    decode (compact value).toUtf8 = .ok value := by
  rw [h.readable.decode_compact, (joinHalves_eq_self_iff value).mpr h.unpaired]

/-! ## Room that is exhausted -/

end FleetToken.Json
