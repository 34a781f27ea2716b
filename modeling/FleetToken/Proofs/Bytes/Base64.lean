import FleetToken.Bytes.Base64
import Mathlib.Tactic.IntervalCases

/-!
# The written forms of Base64

The strict reader inverts the writer, and what the strict reader accepts is plain: bytes of the
alphabet and then padding. The lenient reader, which skips foreign bytes and stops at padding,
finds the same bytes in it.

## Main results

- `Base64.decode?_encode`, `Base64.decodePadded?_encodePadded`: what is written is read back;
- `Base64.written_of_decode?`: the shape of what the strict reader accepts;
- `Base64.decodeLenient?_of_decode?`: the lenient reader agrees with the strict one.
-/

namespace FleetToken.Base64

/-! ## Sextets -/

/-- The sextets of bytes have six bits. -/
theorem toSextets_lt (bytes : Bytes) : ∀ s ∈ toSextets bytes, s < 64 := by
  fun_induction toSextets bytes with
  | case1 => simp
  | case2 a =>
    have ha := a.toNat_lt
    simp only [List.mem_cons, List.not_mem_nil, or_false, forall_eq_or_imp, forall_eq]
    omega
  | case3 a b =>
    have ha := a.toNat_lt
    have hb := b.toNat_lt
    simp only [List.mem_cons, List.not_mem_nil, or_false, forall_eq_or_imp, forall_eq]
    omega
  | case4 a b c rest ih =>
    have ha := a.toNat_lt
    have hb := b.toNat_lt
    have hc := c.toNat_lt
    simp only [List.mem_cons, forall_eq_or_imp]
    refine ⟨by omega, by omega, by omega, by omega, ih⟩

/-- No bytes make a group with a single sextet. -/
theorem length_toSextets_mod (bytes : Bytes) : (toSextets bytes).length % 4 ≠ 1 := by
  fun_induction toSextets bytes with
  | case1 => decide
  | case2 a => simp
  | case3 a b => simp
  | case4 a b c rest ih =>
    simp only [List.length_cons]
    omega

/-- A byte is put together again from its parts. -/
private theorem ofNat_eq_of_toNat {n : Nat} {b : UInt8} (h : n = b.toNat) : UInt8.ofNat n = b := by
  rw [h, UInt8.ofNat_toNat]

/-- Sextets are put together to the bytes that they were taken from. -/
theorem ofSextets_toSextets (bytes : Bytes) : ofSextets (toSextets bytes) = bytes := by
  -- Three bytes make four sextets; one byte or two may be left at the end.
  fun_induction toSextets bytes with
  | case1 => rfl
  | case2 a =>
    have ha := a.toNat_lt
    simp only [ofSextets]
    rw [ofNat_eq_of_toNat (b := a) (by omega)]
  | case3 a b =>
    have ha := a.toNat_lt
    have hb := b.toNat_lt
    simp only [ofSextets]
    rw [ofNat_eq_of_toNat (b := a) (by omega), ofNat_eq_of_toNat (b := b) (by omega)]
  | case4 a b c rest ih =>
    have ha := a.toNat_lt
    have hb := b.toNat_lt
    have hc := c.toNat_lt
    simp only [ofSextets, ih]
    rw [ofNat_eq_of_toNat (b := a) (by omega), ofNat_eq_of_toNat (b := b) (by omega),
      ofNat_eq_of_toNat (b := c) (by omega)]

theorem ofSextets?_toSextets (bytes : Bytes) : ofSextets? (toSextets bytes) = some bytes := by
  simp [ofSextets?, ofSextets_toSextets]

/-- Bytes that sextets are put together to are taken apart to them again. -/
theorem toSextets_of_ofSextets? {sextets : List Nat} {bytes : Bytes}
    (h : ofSextets? sextets = some bytes) : toSextets bytes = sextets := by
  simp only [ofSextets?, Option.ite_none_right_eq_some, Option.some.injEq] at h
  obtain ⟨hsextets, rfl⟩ := h
  exact hsextets

/-! ## Symbols -/

/-- The sextet of a symbol is read back, by cases on the four runs of the alphabet. -/
theorem sextet?_symbol (alphabet : Alphabet) {s : Nat} (hs : s < 64) :
    sextet? alphabet (symbol alphabet s) = some s := by
  have hall : ∀ s : Fin 64, sextet? alphabet (symbol alphabet s) = some s.val := by
    cases alphabet <;> decide
  exact hall ⟨s, hs⟩

/-- A byte of the alphabet of tokens: a letter, a digit, a hyphen or a low line. -/
def IsUrlByte (b : UInt8) : Prop :=
  (0x41 ≤ b ∧ b ≤ 0x5A) ∨ (0x61 ≤ b ∧ b ≤ 0x7A) ∨ (0x30 ≤ b ∧ b ≤ 0x39) ∨ b = 0x2D ∨ b = 0x5F

/-- Only letters, digits, the hyphen and the low line are symbols of the URL alphabet. -/
theorem isUrlByte_of_sextet? {b : UInt8} {s : Nat} (h : sextet? .url b = some s) :
    IsUrlByte b := by
  simp only [sextet?, Bool.and_eq_true, decide_eq_true_eq] at h
  unfold IsUrlByte
  -- One branch for each run of the alphabet, in the order of the definition.
  split at h
  · exact .inl ‹_›
  split at h
  · exact .inr (.inl ‹_›)
  split at h
  · exact .inr (.inr (.inl ‹_›))
  split at h
  · exact .inr (.inr (.inr (.inl ‹_›)))
  split at h
  · exact .inr (.inr (.inr (.inr ‹_›)))
  · exact absurd h (by simp)

theorem IsUrlByte.lt {b : UInt8} (h : IsUrlByte b) : b < 0x80 := by
  simp only [IsUrlByte, UInt8.le_iff_toNat_le, UInt8.lt_iff_toNat_lt, ← UInt8.toNat_inj,
    UInt8.reduceToNat] at h ⊢
  omega

theorem IsUrlByte.ne_padding {b : UInt8} (h : IsUrlByte b) : b ≠ padding := by
  simp only [IsUrlByte, UInt8.le_iff_toNat_le, ← UInt8.toNat_inj, UInt8.reduceToNat, padding,
    ne_eq] at h ⊢
  omega

/-! ## The strict reader -/

/-- Symbols are read as the sextets that they stand for. -/
theorem mapM_sextet?_symbol (alphabet : Alphabet) {sextets : List Nat}
    (h : ∀ s ∈ sextets, s < 64) :
    (sextets.map (symbol alphabet)).mapM (sextet? alphabet) = some sextets := by
  induction sextets with
  | nil => rfl
  | cons s sextets ih =>
    simp [sextet?_symbol alphabet (h s List.mem_cons_self),
      ih fun t ht => h t (List.mem_cons_of_mem s ht)]

theorem isUrlByte_of_mapM {body : Bytes} {sextets : List Nat}
    (h : body.mapM (sextet? .url) = some sextets) : ∀ b ∈ body, IsUrlByte b := by
  induction body generalizing sextets with
  | nil => simp
  | cons b body ih =>
    simp only [List.mapM_cons, Option.bind_eq_bind, Option.bind_eq_some_iff] at h
    obtain ⟨s, hs, rest, hrest, -⟩ := h
    simp only [List.mem_cons, forall_eq_or_imp]
    exact ⟨isUrlByte_of_sextet? hs, ih hrest⟩

/-- Bytes are encoded in the URL alphabet. -/
theorem isUrlByte_encode (bytes : Bytes) : ∀ b ∈ encode .url bytes, IsUrlByte b :=
  isUrlByte_of_mapM (mapM_sextet?_symbol .url (toSextets_lt bytes))

/-- What bytes are encoded as is decoded to them. -/
theorem decodeUnpadded?_encode (alphabet : Alphabet) (bytes : Bytes) :
    decodeUnpadded? alphabet (encode alphabet bytes) = some bytes := by
  rw [decodeUnpadded?, encode, mapM_sextet?_symbol alphabet (toSextets_lt bytes)]
  exact ofSextets?_toSextets bytes

/-- What is written is read back. -/
theorem decode?_encode (bytes : Bytes) : decode? .url (encode .url bytes) = some bytes := by
  have hpad : padding ∉ encode .url bytes :=
    fun hmem => (isUrlByte_encode bytes padding hmem).ne_padding rfl
  rw [decode?, if_neg hpad, decodeUnpadded?_encode]

/-- Without padding no byte of an encoding is the padding byte. -/
theorem ne_padding_of_mem_encode {alphabet : Alphabet} {bytes : Bytes} {b : UInt8}
    (h : b ∈ encode alphabet bytes) : b ≠ padding := by
  have hsymbol : ∀ s : Fin 64, symbol alphabet s ≠ padding := by
    cases alphabet <;> decide
  obtain ⟨s, hs, rfl⟩ := List.mem_map.mp h
  exact hsymbol ⟨s, toSextets_lt bytes s hs⟩

/-- What is written with padding is read back. -/
theorem decodePadded?_encodePadded (alphabet : Alphabet) (bytes : Bytes) :
    decodePadded? alphabet (encodePadded alphabet bytes) = some bytes := by
  have hstop (count : Nat) : (List.replicate count padding).takeWhile (· ≠ padding) = [] := by
    cases count <;> simp [List.replicate_succ]
  have hbody : (encodePadded alphabet bytes).takeWhile (· ≠ padding) = encode alphabet bytes := by
    rw [encodePadded, paddingFor, List.takeWhile_append_of_pos, hstop, List.append_nil]
    exact fun b hb => decide_eq_true (ne_padding_of_mem_encode hb)
  have hfound : body? (encodePadded alphabet bytes) = some (encode alphabet bytes) := by
    simp only [body?, hbody]
    exact if_pos rfl
  rw [decodePadded?, hfound, Option.bind_eq_bind, Option.bind_some, decodeUnpadded?_encode]

/-- A plus, or a byte of the range that all else in the standard alphabet and the padding are in. -/
def IsDataByte (b : UInt8) : Prop :=
  b = 0x2B ∨ (0x2F ≤ b ∧ b ≤ 0x7A)

instance : DecidablePred IsDataByte :=
  fun b => inferInstanceAs (Decidable (b = 0x2B ∨ (0x2F ≤ b ∧ b ≤ 0x7A)))

theorem IsDataByte.lt {b : UInt8} (h : IsDataByte b) : b < 0x80 := by
  rcases h with rfl | ⟨-, h⟩
  · decide
  · exact UInt8.lt_of_le_of_lt h (by decide)

/-- What holds of all such bytes among the ASCII ones holds of all such bytes. -/
theorem IsDataByte.of_forall {p : UInt8 → Prop} {b : UInt8} (h : IsDataByte b)
    (hall : ∀ n : Fin 0x80, IsDataByte (UInt8.ofNat n) → p (UInt8.ofNat n)) : p b := by
  have hb := hall ⟨b.toNat, UInt8.lt_iff_toNat_lt.mp h.lt⟩
  rw [UInt8.ofNat_toNat] at hb
  exact hb h

/-- With padding bytes are encoded in the standard alphabet and the padding byte. -/
theorem isDataByte_encodePadded (bytes : Bytes) :
    ∀ b ∈ encodePadded .standard bytes, IsDataByte b := by
  have hsymbol : ∀ s : Fin 64, IsDataByte (symbol .standard s) := by decide
  intro b hb
  rcases List.mem_append.mp hb with hb | hb
  · obtain ⟨s, hs, rfl⟩ := List.mem_map.mp hb
    exact hsymbol ⟨s, toSextets_lt bytes s hs⟩
  · rw [List.eq_of_mem_replicate hb]
    exact .inr (by decide)

/-- The shape of what the strict reader accepts: the symbols of some sextets, and then either the
padding that fills their last group or none. -/
theorem written_of_decode? {written bytes : Bytes} (h : decode? .url written = some bytes) :
    ∃ body, body.mapM (sextet? .url) = some (toSextets bytes) ∧
      (written = body ∨ written = body ++ paddingFor body.length) := by
  -- The sextets are those of the bytes, as the trailing bits are checked.
  have unpadded : ∀ {body}, decodeUnpadded? .url body = some bytes →
      body.mapM (sextet? .url) = some (toSextets bytes) := by
    intro body hbody
    simp only [decodeUnpadded?, Option.bind_eq_bind, Option.bind_eq_some_iff] at hbody
    obtain ⟨sextets, hsextets, hbytes⟩ := hbody
    rw [hsextets, toSextets_of_ofSextets? hbytes]
  rw [decode?] at h
  split at h
  · simp only [decodePadded?, body?, Option.bind_eq_bind, Option.bind_eq_some_iff,
      Option.ite_none_right_eq_some, Option.some.injEq] at h
    obtain ⟨body, ⟨hwritten, rfl⟩, hbody⟩ := h
    exact ⟨_, unpadded hbody, .inr hwritten⟩
  · exact ⟨written, unpadded h, .inl rfl⟩

/-- A byte that the strict reader accepts is one of the alphabet or padding. -/
theorem mem_of_decode? {written bytes : Bytes} (h : decode? .url written = some bytes) :
    ∀ b ∈ written, IsUrlByte b ∨ b = padding := by
  obtain ⟨body, hbody, rfl | rfl⟩ := written_of_decode? h
  · exact fun b hb => .inl (isUrlByte_of_mapM hbody b hb)
  · intro b hb
    rcases List.mem_append.mp hb with hb | hb
    · exact .inl (isUrlByte_of_mapM hbody b hb)
    · exact .inr (List.eq_of_mem_replicate hb)

/-! ## The lenient reader -/

theorem length_of_mapM {body : Bytes} {sextets : List Nat}
    (h : body.mapM (sextet? .url) = some sextets) : sextets.length = body.length := by
  induction body generalizing sextets with
  | nil => simp_all
  | cons b body ih =>
    simp only [List.mapM_cons, Option.bind_eq_bind, Option.bind_eq_some_iff] at h
    obtain ⟨s, -, rest, hrest, hcons⟩ := h
    obtain rfl : s :: rest = sextets := by simpa using hcons
    simp [ih hrest]

/-- Symbols are taken one by one, whatever follows them. -/
theorem lenientSextets?_append {body : Bytes} {sextets : List Nat} (rest : Bytes) {filled : Nat}
    (hfilled : filled < 4) (h : body.mapM (sextet? .url) = some sextets) :
    lenientSextets? filled 0 (body ++ rest) =
      (lenientSextets? ((filled + body.length) % 4) 0 rest).map (sextets ++ ·) := by
  induction body generalizing sextets filled with
  | nil =>
    obtain rfl : [] = sextets := by simpa using h
    rw [List.nil_append, List.length_nil, Nat.add_zero, Nat.mod_eq_of_lt hfilled]
    simp
  | cons b body ih =>
    have hb := (isUrlByte_of_mapM h b List.mem_cons_self).ne_padding
    simp only [List.mapM_cons, Option.bind_eq_bind, Option.bind_eq_some_iff] at h
    obtain ⟨s, hs, tail, htail, hcons⟩ := h
    obtain rfl : s :: tail = sextets := by simpa using hcons
    have hany : anySextet? b = some s := by simp [anySextet?, hs]
    rw [List.cons_append, lenientSextets?]
    simp only [hb, ↓reduceIte, hany]
    -- One more place of the group is filled, and the run of padding starts anew.
    rw [ih (Nat.mod_lt _ (by decide)) htail, Option.map_map, Nat.mod_add_mod, Nat.add_assoc,
      Nat.add_comm 1, List.length_cons]
    rfl

/-- Padding that fills the last group ends the text. -/
theorem lenientSextets?_paddingFor {length : Nat} (h : length % 4 ≠ 1) :
    lenientSextets? (length % 4) 0 (paddingFor length) = some [] := by
  have hlt : length % 4 < 4 := Nat.mod_lt _ (by decide)
  rw [paddingFor]
  generalize length % 4 = filled at h hlt
  -- A full group needs no padding, and one sextet alone is excluded.
  interval_cases filled
  · rfl
  · exact absurd rfl h
  · rfl
  · rfl

/-- A length that is a multiple of four needs no padding. -/
theorem paddingFor_eq_nil {length : Nat} (h : length % 4 = 0) : paddingFor length = [] := by
  simp [paddingFor, h]

/-- The lenient reader finds in strict Base64 the bytes that the strict reader finds. -/
theorem decodeLenient?_of_decode? {written bytes : Bytes} (h : decode? .url written = some bytes) :
    decodeLenient? written = some bytes := by
  obtain ⟨body, hbody, hwritten⟩ := written_of_decode? h
  have hlength := length_of_mapM hbody
  have hmod : body.length % 4 ≠ 1 := hlength ▸ length_toSextets_mod bytes
  -- The padding that is added is what the text lacks, so both forms are read as the padded one.
  have hfilled : written ++ paddingFor written.length = body ++ paddingFor body.length := by
    rcases hwritten with rfl | rfl
    · rfl
    · have hmultiple : (body ++ paddingFor body.length).length % 4 = 0 := by
        simp only [List.length_append, paddingFor, List.length_replicate]
        omega
      rw [paddingFor_eq_nil hmultiple, List.append_nil]
  rw [decodeLenient?, hfilled, lenientSextets?_append _ (by decide) hbody, Nat.zero_add,
    lenientSextets?_paddingFor hmod]
  simp [ofSextets_toSextets]

end FleetToken.Base64
