import FleetToken.Json.Basic
import Mathlib.Tactic.Common

/-!
# Members of objects

Members whose keys are all different stay as they are when they are put in one after another, and
each of them is found under its key.

## Main definitions

* `Members.keys`: the keys, in order.

## Main results

* `Members.ofList_of_nodup`: different keys are all kept, in order.
* `Members.nodup_keys_ofList`: equal keys are joined.
* `Members.get?_of_mem`: a member is found under its key.
* `Members.get?_of_perm`: in whatever order members stand.
-/

namespace FleetToken.Members

/-- The keys of members, in order. -/
def keys (members : Members) : List Text :=
  members.map Prod.fst

@[simp]
theorem keys_nil : keys [] = [] := rfl

@[simp]
theorem keys_cons (member : Text × Json) (members : Members) :
    keys (member :: members) = member.1 :: keys members := rfl

@[simp]
theorem keys_append (front back : Members) : keys (front ++ back) = keys front ++ keys back := by
  simp [keys]

/-- The key of a member is one of the keys. -/
theorem mem_keys_of_mem {members : Members} {key : Text} {value : Json}
    (h : (key, value) ∈ members) : key ∈ keys members :=
  List.mem_map_of_mem h

theorem get?_cons (key : Text) (member : Text × Json) (members : Members) :
    get? (member :: members) key = if key = member.1 then some member.2 else members.get? key := by
  rw [get?, List.lookup_cons]
  split
  · rename_i h
    rw [if_pos (beq_iff_eq.mp h)]
  · rename_i h
    rw [if_neg (by simpa using h), get?]

/-- Nothing stands under a key that no member has. -/
theorem get?_eq_none_of_notMem {members : Members} {key : Text} (h : key ∉ keys members) :
    members.get? key = none := by
  rw [get?, List.lookup_eq_none_iff]
  -- A member under this key would put the key among the keys.
  rintro ⟨k, v⟩ hmem
  rw [bne_iff_ne]
  rintro rfl
  exact h (mem_keys_of_mem hmem)

/-- A member is found under its key. -/
theorem get?_of_mem {members : Members} {key : Text} {value : Json} (hkeys : (keys members).Nodup)
    (h : (key, value) ∈ members) : members.get? key = some value := by
  induction members with
  | nil => exact absurd h List.not_mem_nil
  | cons member members ih =>
    obtain ⟨hnew, hkeys⟩ := List.nodup_cons.mp hkeys
    rw [get?_cons]
    rcases List.mem_cons.mp h with rfl | hmem
    · rw [if_pos rfl]
    · have hne : key ≠ member.1 := fun he => hnew (he ▸ mem_keys_of_mem hmem)
      rw [if_neg hne, ih hkeys hmem]

/-- A new key goes to the end. -/
theorem insert_of_notMem {members : Members} {key : Text} (value : Json)
    (h : key ∉ keys members) : insert members key value = members ++ [(key, value)] := by
  induction members with
  | nil => rfl
  | cons member members ih =>
    obtain ⟨k, v⟩ := member
    obtain ⟨hne, hrest⟩ := not_or.mp (List.mem_cons.not.mp h)
    rw [insert, if_neg (Ne.symm hne), ih hrest, List.cons_append]

/-- A value that is put in changes nothing under other keys. -/
theorem get?_insert_of_ne {members : Members} {key other : Text} (value : Json)
    (h : other ≠ key) : (members.insert key value).get? other = members.get? other := by
  induction members with
  | nil => rw [insert, get?_cons, if_neg h]
  | cons member members ih =>
    obtain ⟨k, v⟩ := member
    rw [insert]
    split
    · rename_i hk
      rw [get?_cons, get?_cons, if_neg (by rwa [hk]), if_neg (by rwa [hk])]
    · rw [get?_cons, get?_cons, ih]

/-- The order of members with different keys does not matter. -/
theorem get?_of_perm {members others : Members} (hkeys : (keys members).Nodup)
    (h : members.Perm others) (key : Text) : others.get? key = members.get? key := by
  have hothers : (keys others).Nodup := (h.map Prod.fst).nodup_iff.mp hkeys
  by_cases hkey : key ∈ keys members
  · obtain ⟨⟨_, value⟩, hmem, rfl⟩ := List.mem_map.mp hkey
    rw [get?_of_mem hkeys hmem, get?_of_mem hothers (h.mem_iff.mp hmem)]
  · rw [get?_eq_none_of_notMem hkey,
      get?_eq_none_of_notMem fun hmem => hkey ((h.map Prod.fst).mem_iff.mpr hmem)]

/-- Different keys are all kept, in order. By induction on what is still to be put in. -/
theorem ofList_of_nodup {written : List (Text × Json)} (h : (keys written).Nodup) :
    ofList written = written := by
  -- What is already there must be free for the induction, so the statement is about the fold.
  have hfold : ∀ members : Members, (keys (members ++ written)).Nodup →
      written.foldl (fun members member => insert members member.1 member.2) members
        = members ++ written := by
    clear h
    induction written with
    | nil => simp
    | cons member written ih =>
      obtain ⟨key, value⟩ := member
      intro members hkeys
      have hnew : key ∉ keys members := by
        rw [keys_append, List.nodup_append] at hkeys
        intro hmem
        exact hkeys.2.2 key hmem key List.mem_cons_self rfl
      -- The key is new among those before it, so it goes to the end and the invariant moves on.
      rw [List.foldl_cons]
      simp only [insert_of_notMem value hnew]
      rw [ih _ (by simpa using hkeys), List.append_assoc, List.singleton_append]
  exact hfold [] h

/-! ## Equal keys -/

/-- A value that is put in is new, and all others were there before. -/
theorem mem_of_mem_insert {members : Members} {key : Text} {value : Json} {member : Text × Json}
    (h : member ∈ insert members key value) : member = (key, value) ∨ member ∈ members := by
  induction members with
  | nil => exact .inl (List.mem_singleton.mp h)
  | cons first members ih =>
    obtain ⟨k, v⟩ := first
    rw [insert] at h
    split at h
    · rename_i hk
      rcases List.mem_cons.mp h with rfl | hmem
      · exact .inl (by rw [hk])
      · exact .inr (List.mem_cons_of_mem _ hmem)
    · rcases List.mem_cons.mp h with rfl | hmem
      · exact .inr List.mem_cons_self
      · exact (ih hmem).imp_right (List.mem_cons_of_mem _)

/-- Inserting a member doubles no key. -/
theorem nodup_keys_insert {members : Members} (key : Text) (value : Json)
    (h : (keys members).Nodup) : (keys (insert members key value)).Nodup := by
  induction members with
  | nil => simp [insert]
  | cons first members ih =>
    obtain ⟨k, v⟩ := first
    obtain ⟨hnew, hrest⟩ := List.nodup_cons.mp h
    rw [insert]
    -- A key that is there keeps its place, and a new one is put behind all others.
    split
    · exact h
    · rename_i hk
      refine List.nodup_cons.mpr ⟨fun hmem => ?_, ih hrest⟩
      obtain ⟨member, hmember, hkey⟩ := List.mem_map.mp hmem
      rcases mem_of_mem_insert hmember with rfl | hold
      · exact hk hkey.symm
      · exact hnew (hkey ▸ List.mem_map_of_mem hold)

/-- Equal keys are joined. -/
theorem nodup_keys_ofList (written : List (Text × Json)) : (keys (ofList written)).Nodup := by
  have hfold : ∀ members : Members, (keys members).Nodup →
      (keys (written.foldl (fun members member => insert members member.1 member.2)
        members)).Nodup := by
    induction written with
    | nil => exact fun members h => h
    | cons member written ih =>
      exact fun members h => ih _ (nodup_keys_insert member.1 member.2 h)
  exact hfold [] List.nodup_nil

/-- Members that have been put in were all written. -/
theorem mem_of_mem_ofList {written : List (Text × Json)} {member : Text × Json}
    (h : member ∈ ofList written) : member ∈ written := by
  have hfold : ∀ members : Members,
      member ∈ written.foldl (fun members member => insert members member.1 member.2) members →
        member ∈ members ∨ member ∈ written := by
    clear h
    induction written with
    | nil => exact fun members h => .inl h
    | cons first written ih =>
      intro members h
      rcases ih _ h with hmem | hmem
      · rcases mem_of_mem_insert hmem with rfl | hold
        · exact .inr List.mem_cons_self
        · exact .inl hold
      · exact .inr (List.mem_cons_of_mem _ hmem)
  exact (hfold [] h).resolve_left List.not_mem_nil

end FleetToken.Members
