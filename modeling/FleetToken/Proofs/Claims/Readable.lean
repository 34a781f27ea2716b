import FleetToken.Proofs.Claims.FixedPoint

/-!
# Payloads are read back

The payload of claims without floating-point numbers is read back from JSON text, if its integers
are short enough to be written. Its keys hold no surrogates: those of the claims have been replaced
or refused.

## Main results

* `Json.FloatFree.readable_of_wire`: the values inside extensions.
* `FieldValue.readable_of_wire`: the values of fields.
* `Claims.readable_of_payload`: payloads.
-/

namespace FleetToken

/-- An object whose keys are plain is read back if its values are. -/
theorem Text.AreKeys.readable {members : Members} (hkeys : AreKeys members.keys)
    (hvalues : ∀ member ∈ members, member.2.Readable) : (Json.object members).Readable := by
  refine .object hkeys.nodup (fun member hmember => ?_) hvalues
  exact (hkeys.wellFormed member.1 (Members.mem_keys_of_mem hmember)).unpaired

/-- A value without floating-point numbers is read back if it is written. -/
theorem Json.FloatFree.readable_of_wire {levels : Nat} {value written : Json}
    (hvalue : FloatFree value) (h : value.wire levels = .ok written)
    (hwritable : value.isWritable = true) : value.Readable := by
  induction hvalue generalizing levels written with
  | null => exact .null
  | bool b => exact .bool b
  | int n => exact .int (isWritable_int_iff.mp hwritable)
  | string t => exact .string t
  | array _ ih =>
    obtain ⟨below, found, hfound, -⟩ := exists_of_wire_array h
    refine .array fun item hitem => ?_
    obtain ⟨result, -, hresult⟩ := exists_mem_of_mapM hfound hitem
    exact ih item hitem hresult (isWritable_array_iff.mp hwritable item hitem)
  | @object members hkeys _ ih =>
    obtain ⟨below, found, hfound, -⟩ := exists_of_wire_object h
    -- A member is written only if its key holds no surrogates.
    have hmember : ∀ member ∈ members, member.1.WellFormed
        ∧ ∃ result, member.2.wire below = .ok result := by
      intro member hmember
      obtain ⟨result, -, hresult⟩ := exists_mem_of_mapM hfound hmember
      obtain ⟨hkey, value, hvalue, -⟩ := wireMember_eq_ok_iff.mp hresult
      exact ⟨hkey, value, hvalue⟩
    refine .object hkeys (fun member hmem => (hmember member hmem).1.unpaired) fun member hmem => ?_
    obtain ⟨result, hresult⟩ := (hmember member hmem).2
    exact ih member hmem hresult (isWritable_object_iff.mp hwritable member hmem)

/-- What is written for a value is read back; the names of flags must be all different. -/
theorem FieldValue.readable_of_wire {value : FieldValue} {written : Json}
    (hfloats : ∀ extensions, value = .members extensions →
      ∀ member ∈ extensions, member.2.FloatFree)
    (hflags : ∀ named, value = .flags named → (named.map Prod.fst).Nodup)
    {zone : LocalZone} (h : value.wire zone = .ok written)
    (hwritable : written.isWritable = true) : written.Readable := by
  obtain rfl := eq_json_of_wire hfloats h
  -- Dates and extensions hold numbers, which may be too long to write.
  cases value with
  | purpose p => exact .string p.text
  | text t => exact .string t
  | flag b => exact .bool b
  | date t => exact .int (Json.isWritable_int_iff.mp hwritable)
  | texts ts =>
    refine .array fun item hitem => ?_
    obtain ⟨t, -, rfl⟩ := List.mem_map.mp hitem
    exact .string t
  | properties entries =>
    have hkeys := areKeys_replacePropertyKeys entries
    rw [← keys_properties] at hkeys
    refine hkeys.readable fun member hmember => ?_
    obtain ⟨entry, -, rfl⟩ := List.mem_map.mp hmember
    exact .string entry.2
  | flags named => exact (lossless_flags (hflags named rfl)).readable
  | members extensions =>
    obtain ⟨found, hfound, -⟩ := map_eq_ok_iff.mp h
    have hwire := (eq_replaceKeys_of_wireExtensions (hfloats extensions rfl) hfound).2
    refine extensions.areKeys_replaceKeys.readable fun member hmember => ?_
    obtain ⟨key, hkey, -⟩ := Members.exists_of_mem_replaceKeys hmember
    exact (hfloats extensions rfl _ hkey).readable_of_wire (hwire _ hkey)
      (Json.isWritable_object_iff.mp hwritable member hmember)

/-- The payload of claims without floating-point numbers is read back, if it can be written. -/
theorem Claims.readable_of_payload {c : Claims} (hfloats : c.FloatFree) {payload : Members}
    {zone : LocalZone} (h : c.payload zone = .ok payload)
    (hwritable : (Json.object payload).isWritable = true) :
    (Json.object payload).Readable := by
  refine .object (nodup_keys_of_payload h) (fun member hmember => ?_) fun member hmember => ?_
  · obtain ⟨f, -, value, -, -, hname⟩ := exists_field_of_mem_payload h hmember
    rw [hname]
    exact Text.unpaired_ofString f.name.wire
  · obtain ⟨f, hf, value, hvalue, hwire, -⟩ := exists_field_of_mem_payload h hmember
    refine FieldValue.readable_of_wire ?_ ?_ hwire
      (Json.isWritable_object_iff.mp hwritable member hmember)
    · rintro extensions rfl
      exact hfloats extensions (extensions?_of_mem_fields hf hvalue)
    · rintro named rfl
      exact nodup_flags hf hvalue

end FleetToken
