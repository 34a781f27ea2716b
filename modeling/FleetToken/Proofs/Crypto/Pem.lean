import FleetToken.Crypto.Pem
import FleetToken.Proofs.Bytes.Base64
import FleetToken.Proofs.Bytes.Basic
import FleetToken.Proofs.Text.Ascii

/-!
# PEM read back

A block is found again in the document that it is written as. A mark is found where it begins if
its first byte does not stand before it, and a hyphen stands neither in the lines of data nor in a
label. The lines hold Base64, so that no line is blank and all white space in them ends a line.

## Main definitions

* `Pem.dataLines`: the lines that hold the data of a block.

## Main results

* `Pem.scan?_append`: the first place of a mark.
* `Pem.splitBody_dataLines`: lines of data have no headers in front of them.
* `Pem.frame?_encode`, `Pem.firstBlock?_encode`: a block is found again.
-/

namespace FleetToken.Pem

/-! ## Marks -/

/-- A mark that begins here is found. -/
theorem scanFor_append (mark : Bytes) {wanted : Bytes} (h : wanted ≠ []) (rest : Bytes) :
    scanFor mark wanted (wanted ++ rest) = some rest := by
  induction wanted with
  | nil => contradiction
  | cons w more ih =>
    rw [List.cons_append, scanFor, if_neg (not_not.mpr rfl)]
    split
    · rename_i hmore
      rw [hmore, List.nil_append]
    · rename_i hmore
      exact ih hmore

section Scan

variable {first : UInt8} {more front : Bytes} (h : first ∉ front)
include h

/-- Bytes that a mark does not begin with are passed over. -/
theorem scanFor_of_notMem (tail : Bytes) : scanFor (first :: more) (first :: more) (front ++ tail)
    = scanFor (first :: more) (first :: more) tail := by
  induction front with
  | nil => rfl
  | cons b front ih =>
    obtain ⟨hne, hfront⟩ := not_or.mp (List.mem_cons.not.mp h)
    rw [List.cons_append, scanFor, if_pos (Ne.symm hne), ih hfront]

/-- A mark is found where its first byte is. -/
theorem scan?_append (rest : Bytes) :
    scan? (first :: more) (front ++ (first :: more ++ rest)) = some (front, rest) := by
  have hrest : scanFor (first :: more) (first :: more) (front ++ (first :: more ++ rest))
      = some rest := by
    rw [scanFor_of_notMem h, scanFor_append _ (List.cons_ne_nil first more)]
  have hlength : (front ++ (first :: more ++ rest)).length - rest.length - (first :: more).length
      = front.length := by
    simp only [List.length_append, List.length_cons]
    omega
  rw [scan?, hrest, Option.map_some, hlength, List.take_left']
  rfl

/-- Nothing is found where its first byte does not occur. -/
theorem scan?_eq_none : scan? (first :: more) front = none := by
  have hnone : scanFor (first :: more) (first :: more) (front ++ [])
      = scanFor (first :: more) (first :: more) [] := scanFor_of_notMem h []
  rw [List.append_nil] at hnone
  rw [scan?, hnone, scanFor]
  rfl

end Scan

/-! ## Lines -/

section Lines

variable {feed : UInt8} {lines : List Bytes}

/-- No line is blank where all lines have something in them. -/
theorem scan?_lines_eq_none (hne : ∀ line ∈ lines, line ≠ [])
    (hfeed : ∀ line ∈ lines, feed ∉ line) :
    scan? [feed, feed] (lines.flatMap (· ++ [feed])) = none := by
  -- Either nothing of the mark has been seen, or a line has just ended.
  have hscan : scanFor [feed, feed] [feed, feed] (lines.flatMap (· ++ [feed])) = none
      ∧ scanFor [feed, feed] [feed] (lines.flatMap (· ++ [feed])) = none := by
    induction lines with
    | nil => exact ⟨rfl, rfl⟩
    | cons line lines ih =>
      obtain ⟨-, hended⟩ := ih (fun other hother => hne other (List.mem_cons_of_mem _ hother))
        fun other hother => hfeed other (List.mem_cons_of_mem _ hother)
      have hline : feed ∉ line := hfeed line List.mem_cons_self
      have hend : scanFor [feed, feed] [feed, feed] (feed :: lines.flatMap (· ++ [feed]))
          = none := by
        rw [scanFor, if_neg (not_not.mpr rfl), if_neg (List.cons_ne_nil feed []), hended]
      obtain ⟨first, rest, rfl⟩ := List.exists_cons_of_ne_nil (hne line List.mem_cons_self)
      obtain ⟨hfirst, hrest⟩ := not_or.mp (List.mem_cons.not.mp hline)
      rw [List.flatMap_cons, List.append_assoc, List.singleton_append]
      refine ⟨?_, ?_⟩
      · rw [scanFor_of_notMem hline, hend]
      · rw [List.cons_append, scanFor, if_pos (Ne.symm hfirst), scanFor_of_notMem hrest, hend]
  rw [scan?, hscan.1]
  rfl

/-- Without what ends them the lines are one after another. -/
theorem filter_lines {p : UInt8 → Bool} (hfeed : p feed = false)
    (hlines : ∀ line ∈ lines, ∀ b ∈ line, p b = true) :
    (lines.flatMap (· ++ [feed])).filter p = lines.flatten := by
  induction lines with
  | nil => rfl
  | cons line lines ih =>
    have hline : line.filter p = line :=
      List.filter_eq_self.mpr (hlines line List.mem_cons_self)
    rw [List.flatMap_cons, List.filter_append, List.filter_append, hline,
      ih fun other hother => hlines other (List.mem_cons_of_mem _ hother)]
    simp [hfeed]

end Lines

/-! ## Lines of data -/

/-- The lines that hold the data of a block, each with a line feed. -/
def dataLines (contents : Bytes) : Bytes :=
  (Bytes.blocks 64 (Base64.encodePadded .standard contents)).flatMap (· ++ [0x0A])

section Data

variable {contents line : Bytes} {b : UInt8}

/-- A line of a block has symbols only. -/
theorem isDataByte_of_mem_line
    (hline : line ∈ Bytes.blocks 64 (Base64.encodePadded .standard contents)) (hb : b ∈ line) :
    Base64.IsDataByte b := by
  have hflatten := Bytes.flatten_blocks (show 0 < 64 by decide)
    (Base64.encodePadded .standard contents)
  refine Base64.isDataByte_encodePadded contents b ?_
  rw [← hflatten]
  exact List.mem_flatten_of_mem hline hb

/-- The data of a block are symbols and line feeds. -/
theorem mem_dataLines (h : b ∈ dataLines contents) : b = 0x0A ∨ Base64.IsDataByte b := by
  obtain ⟨line, hline, hb⟩ := List.mem_flatMap.mp h
  rcases List.mem_append.mp hb with hb | hb
  · exact .inr (isDataByte_of_mem_line hline hb)
  · exact .inl (List.mem_singleton.mp hb)

theorem lt_of_mem_dataLines (h : b ∈ dataLines contents) : b < 0x80 := by
  rcases mem_dataLines h with rfl | hdata
  · decide
  · exact hdata.lt

/-- No byte but those of data and line feeds is in the lines. -/
theorem notMem_dataLines (hfeed : b ≠ 0x0A) (hdata : ¬Base64.IsDataByte b) (contents : Bytes) :
    b ∉ dataLines contents :=
  fun h => (mem_dataLines h).elim hfeed hdata

/-- Lines of data have no headers in front of them. -/
theorem splitBody_dataLines (contents : Bytes) :
    splitBody (dataLines contents) = ([], dataLines contents) := by
  have hfeeds : scan? [0x0A, 0x0A] (dataLines contents) = none := by
    refine scan?_lines_eq_none (fun line hline => Bytes.ne_nil_of_mem_blocks (by decide) hline)
      fun line hline hfeed => ?_
    exact absurd (isDataByte_of_mem_line hline hfeed) (by decide)
  have hreturn : (0x0D : UInt8) ∉ dataLines contents :=
    notMem_dataLines (by decide) (by decide) contents
  rw [splitBody, hfeeds, scan?_eq_none hreturn]
  rfl

theorem isWhite_of_isDataByte (h : Base64.IsDataByte b) : isWhite (.ofNat b.toNat) = false :=
  h.of_forall (p := fun b => isWhite (.ofNat b.toNat) = false) (by decide +kernel)

theorem isSkipped_of_isDataByte (h : Base64.IsDataByte b) : isSkipped b = false :=
  h.of_forall (p := fun b => isSkipped b = false) (by decide +kernel)

/-- Without white space the lines are the data. -/
theorem filter_dataLines (contents : Bytes) :
    (Text.ofAscii (dataLines contents)).filter (fun c => !isWhite c)
      = Text.ofAscii (Base64.encodePadded .standard contents) := by
  rw [Text.ofAscii, List.filter_map, dataLines, filter_lines, Bytes.flatten_blocks (by decide)]
  · rfl
  · decide
  · intro line hline b hb
    simp [isWhite_of_isDataByte (isDataByte_of_mem_line hline hb)]

/-- Nothing is skipped in front of the lines, or of the END line if there are none. -/
theorem dropWhile_dataLines (rest : Bytes) :
    (dataLines contents ++ (Bytes.ofAscii "-----END " ++ rest)).dropWhile isSkipped
      = dataLines contents ++ (Bytes.ofAscii "-----END " ++ rest) := by
  rw [dataLines]
  cases hlines : Bytes.blocks 64 (Base64.encodePadded .standard contents) with
  | nil => rfl
  | cons line lines =>
    have hline : line ∈ Bytes.blocks 64 (Base64.encodePadded .standard contents) :=
      hlines ▸ List.mem_cons_self
    obtain ⟨first, tail, rfl⟩ :=
      List.exists_cons_of_ne_nil (Bytes.ne_nil_of_mem_blocks (by decide) hline)
    have hfirst := isSkipped_of_isDataByte (isDataByte_of_mem_line hline List.mem_cons_self)
    exact List.dropWhile_cons_of_neg (by simp [hfirst])

end Data

/-! ## Blocks -/

/-- A block as it can be written: its label is ASCII without hyphens, and it has no headers. -/
structure Block.IsPlain (block : Block) : Prop where
  /-- There is a label. -/
  label_ne : block.label ≠ []
  /-- The label is ASCII. -/
  isAscii : block.label.IsAscii
  /-- No hyphen is in the label. -/
  hyphen : CodePoint.ofChar '-' ∉ block.label
  /-- There are no headers. -/
  headers_eq : block.headers = []

/-- A plain label has no hyphens, so that it ends where it should. -/
theorem Block.IsPlain.hyphen_notMem {block : Block} (h : block.IsPlain) :
    (0x2D : UInt8) ∉ block.label.toUtf8 := by
  rw [Text.toUtf8_eq_map h.isAscii]
  intro hmem
  obtain ⟨c, hc, hbyte⟩ := List.mem_map.mp hmem
  have hlt := h.isAscii c hc
  have hval : c.val = 0x2D := by
    have hnat := congrArg UInt8.toNat hbyte
    rw [UInt8.toNat_ofNat'] at hnat
    simp only [UInt8.reduceToNat] at hnat
    omega
  have hhyphen : c = CodePoint.ofChar '-' := CodePoint.eq_of_val_eq hval
  exact h.hyphen (hhyphen ▸ hc)

/-- A block between its two lines. -/
theorem Block.encode_eq (block : Block) : block.encode = Bytes.ofAscii "-----BEGIN "
    ++ (block.label.toUtf8 ++ (dashes ++ (0x0A :: dataLines block.contents
      ++ (Bytes.ofAscii "-----END " ++ (block.label.toUtf8 ++ (dashes ++ [0x0A])))))) := by
  simp only [encode, dataLines, List.append_assoc, List.cons_append, List.nil_append]

/-- A block shows that it is a document. -/
theorem includes_marker (block : Block) : Bytes.includes marker block.encode = true := by
  rw [Bytes.includes_iff, Block.encode_eq]
  exact (List.prefix_append marker (0x20 :: _)).isInfix

variable {block : Block} (h : block.IsPlain)
include h

/-- A block is written in ASCII. -/
theorem lt_of_mem_encode {b : UInt8} (hb : b ∈ block.encode) : b < 0x80 := by
  have hbegin : ∀ b ∈ Bytes.ofAscii "-----BEGIN ", b < 0x80 := by decide +kernel
  have hend : ∀ b ∈ Bytes.ofAscii "-----END ", b < 0x80 := by decide +kernel
  have hdashes : ∀ b ∈ dashes, b < 0x80 := by decide +kernel
  have hlabel := Text.toUtf8_lt h.isAscii
  have hfeed : (0x0A : UInt8) < 0x80 := by decide
  simp only [Block.encode_eq, List.mem_append, List.mem_cons, List.not_mem_nil, or_false] at hb
  rcases hb with hb | hb | hb | (rfl | hb) | hb | hb | hb | rfl
  · exact hbegin b hb
  · exact hlabel b hb
  · exact hdashes b hb
  · exact hfeed
  · exact lt_of_mem_dataLines hb
  · exact hend b hb
  · exact hlabel b hb
  · exact hdashes b hb
  · exact hfeed

/-- The lines of a block are found again. -/
theorem frame?_encode : frame? block.encode
    = some (⟨block.label.toUtf8, dataLines block.contents, block.label.toUtf8⟩, [0x0A]) := by
  -- Neither the label nor the lines hold a hyphen, so each search stops at the next mark.
  have hlabel := h.hyphen_notMem
  have hbody : (0x2D : UInt8) ∉ dataLines block.contents :=
    notMem_dataLines (by decide) (by decide) block.contents
  have hbegin (rest : Bytes) : scan? (Bytes.ofAscii "-----BEGIN ")
      (Bytes.ofAscii "-----BEGIN " ++ rest) = some ([], rest) :=
    scan?_append List.not_mem_nil rest
  have hdashes (rest : Bytes) : scan? dashes (block.label.toUtf8 ++ (dashes ++ rest))
      = some (block.label.toUtf8, rest) :=
    scan?_append hlabel rest
  have hend (rest : Bytes) : scan? (Bytes.ofAscii "-----END ")
      (dataLines block.contents ++ (Bytes.ofAscii "-----END " ++ rest))
        = some (dataLines block.contents, rest) :=
    scan?_append hbody rest
  have hskip (rest : Bytes) : (0x0A :: dataLines block.contents
      ++ (Bytes.ofAscii "-----END " ++ rest)).dropWhile isSkipped
        = dataLines block.contents ++ (Bytes.ofAscii "-----END " ++ rest) := by
    rw [List.cons_append, List.dropWhile_cons_of_pos (by decide)]
    exact dropWhile_dataLines rest
  rw [Block.encode_eq, frame?, hbegin]
  simp only [Option.bind_eq_bind, Option.bind_some, hdashes, hskip, hend, pure]

/-- A block is read from the frame that it is written in. -/
theorem block?_frame :
    Frame.block? ⟨block.label.toUtf8, dataLines block.contents, block.label.toUtf8⟩
      = some block := by
  have hlabel : Text.ofUtf8? false block.label.toUtf8 = some block.label :=
    Text.ofUtf8?_toUtf8 false h.isAscii
  have hheaders : Text.ofUtf8? false [] = some [] := rfl
  have hdata : Text.ofUtf8? false (dataLines block.contents)
      = some (Text.ofAscii (dataLines block.contents)) :=
    Text.ofUtf8?_ascii false fun b hb => lt_of_mem_dataLines hb
  have hdigits : Text.toUtf8 (Text.ofAscii (Base64.encodePadded .standard block.contents))
      = Base64.encodePadded .standard block.contents :=
    Text.toUtf8_ofAscii fun b hb => (Base64.isDataByte_encodePadded block.contents b hb).lt
  have hfits : ¬(block.label = [] ∨ block.label.toUtf8 ≠ block.label.toUtf8) :=
    not_or.mpr ⟨h.label_ne, not_not.mpr rfl⟩
  -- Without the line breaks, the lines are the digits of the contents.
  have hcontents : Base64.decodePadded? .standard (Text.toUtf8
      ((Text.ofAscii (dataLines block.contents)).filter fun c => !isWhite c))
        = some block.contents := by
    rw [filter_dataLines, hdigits, Base64.decodePadded?_encodePadded]
  simp only [Frame.block?, hlabel, Option.bind_eq_bind, Option.bind_some, splitBody_dataLines,
    hheaders, hdata, hcontents]
  rw [if_neg hfits, if_pos trivial, ← h.headers_eq]
  rfl

/-- A block is found again in the document that it is written as. -/
theorem firstBlock?_encode : firstBlock? block.encode = some block := by
  rw [firstBlock?, frame?_encode h]
  exact block?_frame h

end FleetToken.Pem
