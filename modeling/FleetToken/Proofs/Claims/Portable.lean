import FleetToken.Claims.Wire
import FleetToken.Proofs.Json.RoundTrip
import FleetToken.Proofs.Time.Seconds
import Mathlib.Data.List.Nodup

/-!
# Values that tokens carry unchanged

A value of a field is canonical if it is written as it stands: its dates are whole seconds, its keys
hold no surrogates, and extensions are not nested too deeply. It is carried unchanged by JSON text
if moreover no text holds the two halves of a surrogate pair side by side.

## Main definitions

* `Json.Portable`: the values inside extensions that are carried unchanged.
* `FieldValue.Canonical`: the values of fields that are written as they stand.
* `FieldValue.Portable`: the values of fields that are carried unchanged.
* `FieldValue.json`: how a value is written.

## Main results

* `FieldValue.Canonical.wire_eq`: canonical values are written as they stand.
* `FieldValue.Portable.lossless_json`: what is written for portable values is read back.
-/

namespace FleetToken

/-! ## Keys -/

/-- The keys of an object are all different, as in every dictionary, and hold no surrogates. -/
structure Text.AreKeys (keys : List Text) : Prop where
  /-- No key comes twice. -/
  nodup : keys.Nodup
  /-- No key holds a surrogate. -/
  wellFormed : ∀ key ∈ keys, key.WellFormed

theorem Text.ofString_injective : Function.Injective ofString := by
  intro s t h
  have hchar : Function.Injective CodePoint.ofChar := fun c d hcd =>
    Char.toNat_inj.mp (congrArg CodePoint.val hcd)
  exact String.toList_inj.mp (hchar.list_map h)

/-- A text without surrogates is written as it is. -/
theorem Text.replaceSurrogates_eq_self {t : Text} (h : t.WellFormed) : replaceSurrogates t = t := by
  induction t with
  | nil => rfl
  | cons c t ih =>
    have hc : c.isSurrogate = false := h c List.mem_cons_self
    have ht : replaceSurrogates t = t := ih fun d hd => h d (List.mem_cons_of_mem c hd)
    rw [replaceSurrogates] at ht ⊢
    rw [List.flatMap_cons, ht, hc]
    rfl

/-! ## Values inside extensions -/

/-- A value that an extension can hold on the first of some levels: no floating-point numbers, and
nothing that the wire form changes or refuses. -/
inductive Json.Portable : Nat → Json → Prop where
  | null {levels : Nat} : Portable (levels + 1) .null
  | bool {levels : Nat} (b : Bool) : Portable (levels + 1) (.bool b)
  | int {levels : Nat} {n : Int} (hn : n.natAbs < 10 ^ Text.maxIntDigits) :
      Portable (levels + 1) (.int n)
  | string {levels : Nat} {t : Text} (ht : t.Unpaired) : Portable (levels + 1) (.string t)
  | array {levels : Nat} {items : List Json} (hitems : ∀ item ∈ items, Portable levels item) :
      Portable (levels + 1) (.array items)
  | object {levels : Nat} {members : Members} (hkeys : Text.AreKeys members.keys)
      (hvalues : ∀ member ∈ members, Portable levels member.2) :
      Portable (levels + 1) (.object members)

/-- A portable value is read back as it was written. -/
theorem Json.Portable.lossless {levels : Nat} {value : Json} (h : Portable levels value) :
    value.Lossless := by
  induction h with
  | null => exact .null
  | bool b => exact .bool b
  | int hn => exact .int hn
  | string ht => exact .string ht
  | array _ ih => exact .array ih
  | object hkeys _ ih =>
    refine .object hkeys.nodup (fun member hmember => ?_) ih
    exact (hkeys.wellFormed member.1 (Members.mem_keys_of_mem hmember)).unpaired

/-! ## How values inside extensions are written -/

/-- A member of an object inside an extension as it is written. -/
def wireMember (levels : Nat) (member : Text × Json) : Except WireFault (Text × Json) := do
  if member.1.any CodePoint.isSurrogate then throw .keyUnencodable
  return (member.1, ← member.2.wire levels)

theorem wireItems_eq_mapM (levels : Nat) (items : List Json) :
    wireItems levels items = items.mapM (Json.wire levels) := by
  induction items with
  | nil => rw [wireItems, List.mapM_nil, pure_eq_ok]
  | cons item items ih => rw [wireItems, List.mapM_cons, ih]

theorem wireMembers_eq_mapM (levels : Nat) (members : Members) :
    wireMembers levels members = members.mapM (wireMember levels) := by
  induction members with
  | nil => rw [wireMembers, List.mapM_nil, pure_eq_ok]
  | cons member members ih =>
    obtain ⟨key, value⟩ := member
    rw [wireMembers, List.mapM_cons, wireMember, ih]
    -- Only the key and the value decide how one member is written.
    split
    · rfl
    · cases value.wire levels <;> rfl

/-- A member is written if its key is well-formed and its value is written. -/
theorem wireMember_eq_ok_iff {levels : Nat} {member written : Text × Json} :
    wireMember levels member = .ok written ↔ member.1.WellFormed
      ∧ ∃ value, member.2.wire levels = .ok value ∧ written = (member.1, value) := by
  rw [wireMember, ← Text.any_isSurrogate_eq_false_iff]
  cases hkey : member.1.any CodePoint.isSurrogate with
  | true => simp
  | false =>
    simp only [Bool.false_eq_true, ↓reduceIte, pure_eq_ok, bind_eq_ok_iff, Except.ok.injEq,
      true_and]
    constructor
    · rintro ⟨value, hvalue, rfl⟩
      exact ⟨value, hvalue, rfl⟩
    · rintro ⟨value, hvalue, rfl⟩
      exact ⟨value, hvalue, rfl⟩

/-- There must be a level for a value to be written on. -/
theorem Json.exists_succ_of_wire {levels : Nat} {value written : Json}
    (h : value.wire levels = .ok written) : ∃ below, levels = below + 1 := by
  cases levels with
  | zero =>
    rw [wire.eq_def, if_pos rfl] at h
    contradiction
  | succ below => exact ⟨below, rfl⟩

/-- An array is written if its items are, on the level below. -/
theorem Json.exists_of_wire_array {levels : Nat} {items : List Json} {written : Json}
    (h : (array items).wire levels = .ok written) :
    ∃ below found, items.mapM (wire below) = .ok found ∧ array found = written := by
  obtain ⟨below, rfl⟩ := exists_succ_of_wire h
  rw [wire, if_neg (Nat.succ_ne_zero _), Nat.add_sub_cancel, wireItems_eq_mapM] at h
  exact ⟨below, map_eq_ok_iff.mp h⟩

/-- An object is written if its members are, on the level below. -/
theorem Json.exists_of_wire_object {levels : Nat} {members : Members} {written : Json}
    (h : (object members).wire levels = .ok written) :
    ∃ below found, members.mapM (wireMember below) = .ok found ∧ object found = written := by
  obtain ⟨below, rfl⟩ := exists_succ_of_wire h
  rw [wire, if_neg (Nat.succ_ne_zero _), Nat.add_sub_cancel, wireMembers_eq_mapM] at h
  exact ⟨below, map_eq_ok_iff.mp h⟩

/-- Items that are each written as they are, are written as they are. -/
theorem wireItems_eq_ok {levels : Nat} {items : List Json}
    (h : ∀ item ∈ items, item.wire levels = .ok item) : wireItems levels items = .ok items := by
  rw [wireItems_eq_mapM, mapM_eq_ok_map h, List.map_id']

/-- So are members with well-formed keys. -/
theorem wireMembers_eq_ok {levels : Nat} {members : Members}
    (hkeys : ∀ key ∈ members.keys, key.WellFormed)
    (h : ∀ member ∈ members, member.2.wire levels = .ok member.2) :
    wireMembers levels members = .ok members := by
  have hmember : ∀ member ∈ members, wireMember levels member = .ok member := fun member hmem =>
    wireMember_eq_ok_iff.mpr
      ⟨hkeys member.1 (Members.mem_keys_of_mem hmem), member.2, h member hmem, rfl⟩
  rw [wireMembers_eq_mapM, mapM_eq_ok_map hmember, List.map_id']

/-- A value inside an extension is written as it stands. -/
theorem Json.Portable.wire_eq {levels : Nat} {value : Json} (h : Portable levels value) :
    value.wire levels = .ok value := by
  -- On the level of the value, and with one level less for what is inside it.
  induction h with
  | null => rfl
  | bool b => rfl
  | int _ => rfl
  | string _ => rfl
  | array _ ih =>
    rw [wire, if_neg (Nat.succ_ne_zero _), Nat.add_sub_cancel]
    simp only [wireItems_eq_ok ih]
    rfl
  | object hkeys _ ih =>
    rw [wire, if_neg (Nat.succ_ne_zero _), Nat.add_sub_cancel]
    simp only [wireMembers_eq_ok hkeys.wellFormed ih]
    rfl

/-! ## Values of fields -/

/-- A value of a field that is written as it stands, and that the reader of claims makes of what is
written: dates are whole seconds, and keys and values under them are as they are on the wire. -/
inductive FieldValue.Canonical : FieldValue → Prop where
  | purpose (p : Purpose) : Canonical (.purpose p)
  | text (t : Text) : Canonical (.text t)
  | flag (b : Bool) : Canonical (.flag b)
  | date {n : Int} {h : Timestamp.inRange (n * microsPerSecond) = true}
      (hn : n.natAbs ≤ Timestamp.watershed.natAbs) : Canonical (.date (.ofSeconds n h))
  | texts (ts : List Text) : Canonical (.texts ts)
  | properties {entries : List (Text × Text)} (hkeys : Text.AreKeys (entries.map Prod.fst)) :
      Canonical (.properties entries)
  | flags (named : List (String × Bool)) : Canonical (.flags named)
  | members {members : Members} (hkeys : Text.AreKeys members.keys)
      (hvalues : ∀ member ∈ members, member.2.wire maxLevels = .ok member.2) :
      Canonical (.members members)

/-- A value of a field that is carried unchanged. -/
inductive FieldValue.Portable : FieldValue → Prop where
  | purpose (p : Purpose) : Portable (.purpose p)
  | text {t : Text} (ht : t.Unpaired) : Portable (.text t)
  | flag (b : Bool) : Portable (.flag b)
  | date {n : Int} {h : Timestamp.inRange (n * microsPerSecond) = true} (hlow : 0 ≤ n)
      (hhigh : n ≤ Timestamp.watershed) : Portable (.date (.ofSeconds n h))
  | texts {ts : List Text} (hts : ∀ t ∈ ts, t.Unpaired) : Portable (.texts ts)
  | properties {entries : List (Text × Text)} (hkeys : Text.AreKeys (entries.map Prod.fst))
      (hentries : ∀ entry ∈ entries, entry.2.Unpaired) : Portable (.properties entries)
  | flags (named : List (String × Bool)) : Portable (.flags named)
  | members {members : Members} (hkeys : Text.AreKeys members.keys)
      (hvalues : ∀ member ∈ members, member.2.Portable maxLevels) : Portable (.members members)

/-- What JSON text carries unchanged is written as it stands. -/
theorem FieldValue.Portable.canonical {value : FieldValue} (h : value.Portable) :
    value.Canonical := by
  cases h with
  | purpose p => exact .purpose p
  | text ht => exact .text _
  | flag b => exact .flag b
  | date hlow hhigh => exact .date (Timestamp.natAbs_le_watershed hlow hhigh)
  | texts hts => exact .texts _
  | properties hkeys hentries => exact .properties hkeys
  | flags named => exact .flags named
  | members hkeys hvalues => exact .members hkeys fun member hmem => (hvalues member hmem).wire_eq

/-- How a value is written if it is written as it stands. -/
def FieldValue.json (zone : LocalZone := .utc) : FieldValue → Json
  | .purpose p => .string p.text
  | .text t => .string t
  | .flag b => .bool b
  | .date t => .int ((t.wireSeconds? zone).getD 0)
  | .texts ts => .array (ts.map .string)
  | .properties entries => .object (entries.map fun entry => (entry.1, .string entry.2))
  | .flags named => .object (named.map fun flag => (Text.ofString flag.1, .bool flag.2))
  | .members extensions => .object extensions

theorem keys_properties (entries : List (Text × Text)) :
    Members.keys (entries.map fun entry => (entry.1, .string entry.2)) = entries.map Prod.fst := by
  simp [Members.keys, Function.comp_def]

/-- Properties with well-formed keys keep their keys. -/
theorem replaceSurrogates_properties {entries : List (Text × Text)}
    (hkeys : ∀ key ∈ entries.map Prod.fst, key.WellFormed) :
    entries.map (fun entry => (entry.1.replaceSurrogates, Json.string entry.2))
      = entries.map fun entry => (entry.1, Json.string entry.2) := by
  refine List.map_congr_left fun entry hentry => ?_
  rw [Text.replaceSurrogates_eq_self (hkeys entry.1 (List.mem_map_of_mem hentry))]

/-- Extensions with keys that can be written and such values are written as they are. -/
theorem wireExtensions_eq_ok {members : Members} (hkeys : Text.AreKeys members.keys)
    (hvalues : ∀ member ∈ members, member.2.wire maxLevels = .ok member.2) :
    wireExtensions members = .ok members := by
  have hwritten : wireExtensions members = (do
      return Members.ofList (← members.mapM fun member => do
        return (member.1.replaceSurrogates, ← member.2.wire maxLevels))) := rfl
  have hmember : ∀ member ∈ members, (do
      return (member.1.replaceSurrogates, ← member.2.wire maxLevels)) = Except.ok member := by
    intro member hmem
    rw [Text.replaceSurrogates_eq_self
      (hkeys.wellFormed member.1 (Members.mem_keys_of_mem hmem)), hvalues member hmem]
    rfl
  rw [hwritten, mapM_eq_ok_map hmember, List.map_id', ok_bind,
    Members.ofList_of_nodup hkeys.nodup]
  rfl

/-- A canonical value is written as it stands. -/
theorem FieldValue.Canonical.wire_eq {value : FieldValue} (h : value.Canonical)
    {zone : LocalZone} : value.wire zone = .ok value.json := by
  cases h with
  | purpose p => rfl
  | text t => rfl
  | flag b => rfl
  | @date n h hn =>
    have hwritten : (Timestamp.ofSeconds n h).wireSeconds? zone = some n :=
      Timestamp.wireSeconds?_ofSeconds hn
    rw [wire, hwritten, json, Timestamp.wireSeconds?_ofSeconds hn]
    rfl
  | texts ts => rfl
  | @properties entries hkeys =>
    have hwritten : wire (.properties entries) zone = .ok (.object (Members.ofList
        (entries.map fun entry => (entry.1.replaceSurrogates, .string entry.2)))) := rfl
    have hnodup := hkeys.nodup
    rw [← keys_properties] at hnodup
    -- Nothing is replaced in the keys, and so they stay different.
    rw [hwritten, replaceSurrogates_properties hkeys.wellFormed, Members.ofList_of_nodup hnodup]
    rfl
  | flags named => rfl
  | members hkeys hvalues =>
    rw [wire, wireExtensions_eq_ok hkeys hvalues]
    rfl

/-- A canonical value is the same in every zone. -/
theorem FieldValue.Canonical.json_eq {value : FieldValue} (h : value.Canonical) (zone : LocalZone) :
    value.json zone = value.json := by
  cases h with
  | @date n h hn =>
    have hwritten : (Timestamp.ofSeconds n h).wireSeconds? zone = some n :=
      Timestamp.wireSeconds?_ofSeconds hn
    rw [json, hwritten, json, Timestamp.wireSeconds?_ofSeconds hn]
  | _ => rfl

/-- Flags are read back if their names are all different. -/
theorem FieldValue.lossless_flags {named : List (String × Bool)}
    (hnames : (named.map Prod.fst).Nodup) : (flags named).json.Lossless := by
  rw [json]
  refine .object ?_ (fun member hmember => ?_) fun member hmember => ?_
  · have hkeys : Members.keys (named.map fun flag => (Text.ofString flag.1, .bool flag.2))
        = (named.map Prod.fst).map Text.ofString := by
      simp [Members.keys, Function.comp_def]
    rw [hkeys]
    exact List.Nodup.map Text.ofString_injective hnames
  · obtain ⟨flag, -, rfl⟩ := List.mem_map.mp hmember
    exact Text.unpaired_ofString flag.1
  · obtain ⟨flag, -, rfl⟩ := List.mem_map.mp hmember
    exact .bool flag.2

/-- What is written for such a value is read back; the names of flags must be all different. -/
theorem FieldValue.Portable.lossless_json {value : FieldValue} (h : value.Portable)
    (hflags : ∀ named, value = .flags named → (named.map Prod.fst).Nodup) :
    value.json.Lossless := by
  cases h with
  | purpose p => exact .string (Text.unpaired_ofString p.name)
  | text ht => exact .string ht
  | flag b => exact .bool b
  | @date n _ hlow hhigh =>
    rw [json, Timestamp.wireSeconds?_ofSeconds (Timestamp.natAbs_le_watershed hlow hhigh)]
    refine .int ?_
    -- Eleven digits are far from the limit on digits.
    have hbound : n.natAbs < 10 ^ 11 := by
      rw [Timestamp.watershed] at hhigh
      omega
    exact Nat.lt_of_lt_of_le hbound (Nat.pow_le_pow_right (by decide) (by decide))
  | texts hts =>
    rw [json]
    refine .array fun item hitem => ?_
    obtain ⟨t, ht, rfl⟩ := List.mem_map.mp hitem
    exact .string (hts t ht)
  | @properties entries hkeys hentries =>
    rw [json]
    refine .object (by rw [keys_properties]; exact hkeys.nodup) (fun member hmember => ?_)
      fun member hmember => ?_
    · obtain ⟨entry, hentry, rfl⟩ := List.mem_map.mp hmember
      exact (hkeys.wellFormed entry.1 (List.mem_map_of_mem hentry)).unpaired
    · obtain ⟨entry, hentry, rfl⟩ := List.mem_map.mp hmember
      exact .string (hentries entry hentry)
  | flags named => exact lossless_flags (hflags named rfl)
  | members hkeys hvalues =>
    rw [json]
    refine .object hkeys.nodup (fun member hmember => ?_)
      fun member hmember => (hvalues member hmember).lossless
    exact (hkeys.wellFormed member.1 (Members.mem_keys_of_mem hmember)).unpaired

end FleetToken
