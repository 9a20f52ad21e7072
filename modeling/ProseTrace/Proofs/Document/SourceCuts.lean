import ProseTrace.Document.Source
import ProseTrace.Proofs.Text.OffsetTable
import ProseTrace.Proofs.Text.Utf8Bytes

/-!
# Cuts of a source

The ends of a valid range cut the text of a source into three parts.  What a source says about
bytes (boundaries, valid ranges, slices, character indices) is said here about the characters of
these parts, so that no later argument has to look at bytes.
-/

namespace ProseTrace.Proofs.Document.SourceCuts

open ProseTrace.Text ProseTrace.Document
open ProseTrace.Proofs.Text.OffsetTable ProseTrace.Proofs.Text.Utf8Bytes

/-- The text falls into the characters before a range, those inside it and those after it. -/
structure Cuts (source : Source) (range : ByteRange) (before inside after : List Char) : Prop where
  text_eq : source.text.toList = before ++ inside ++ after
  start_eq : range.start = measure Char.utf8Size before
  stop_eq : range.stop = measure Char.utf8Size (before ++ inside)

/-! ## Boundaries -/

theorem isBoundary_iff_isValid {source : Source} {offset : Nat} :
    source.isBoundary offset = true ↔ String.Pos.Raw.IsValid source.text ⟨offset⟩ := by
  rw [String.Pos.Raw.isValid_iff_isUTF8FirstByte]
  have hsize : source.encoded.size = source.text.utf8ByteSize := rfl
  by_cases hlt : offset < source.encoded.size
  · have hbyte : source.encoded[offset]? = some source.encoded[offset] := by
      exact getElem?_pos source.encoded offset hlt
    have hlow : source.encoded[offset].toNat < 248 := toNat_lt_of_mem_toByteArray hlt
    have hmask := mask_ne_iff_isUTF8FirstByte hlow
    simp only [Source.isBoundary, hbyte, bne_iff_ne, hmask]
    constructor
    · exact fun h => Or.inr ⟨hlt, h⟩
    · rintro (hend | ⟨_, h⟩)
      · have : offset = source.text.utf8ByteSize := congrArg String.Pos.Raw.byteIdx hend
        omega
      · exact h
  · have hbyte : source.encoded[offset]? = none := getElem?_neg source.encoded offset hlt
    simp only [Source.isBoundary, hbyte, beq_iff_eq, Source.byteLength_eq]
    constructor
    · exact fun h => Or.inl (String.Pos.Raw.ext h)
    · rintro (hend | ⟨h, _⟩)
      · exact congrArg String.Pos.Raw.byteIdx hend
      · exact absurd h hlt

theorem isBoundary_iff_exists_append {source : Source} {offset : Nat} :
    source.isBoundary offset = true ↔
      ∃ before after, source.text.toList = before ++ after ∧
        measure Char.utf8Size before = offset := by
  rw [isBoundary_iff_isValid, isValid_iff_exists_append]

theorem isBoundary_iff_exists_take {source : Source} {offset : Nat} :
    source.isBoundary offset = true ↔
      ∃ i, i ≤ source.text.toList.length ∧
        measure Char.utf8Size (source.text.toList.take i) = offset := by
  rw [isBoundary_iff_exists_append]
  constructor
  · rintro ⟨before, after, htext, hoffset⟩
    refine ⟨before.length, ?_, ?_⟩
    · rw [htext, List.length_append]
      omega
    · rw [htext, List.take_left, hoffset]
  · rintro ⟨i, _, hoffset⟩
    exact ⟨_, _, (List.take_append_drop i _).symm, hoffset⟩

theorem isBoundary_measure_take (source : Source) (i : Nat) :
    source.isBoundary (measure Char.utf8Size (source.text.toList.take i)) = true :=
  isBoundary_iff_exists_append.2 ⟨_, _, (List.take_append_drop i _).symm, rfl⟩

/-! ## Valid ranges -/

theorem exists_take_of_admits {source : Source} {range : ByteRange}
    (h : source.admits range = true) :
    ∃ i j, i ≤ j ∧ j ≤ source.text.toList.length ∧
      measure Char.utf8Size (source.text.toList.take i) = range.start ∧
      measure Char.utf8Size (source.text.toList.take j) = range.stop := by
  rw [Source.admits_iff] at h
  obtain ⟨i, hi, hstart⟩ := isBoundary_iff_exists_take.1 h.1
  obtain ⟨j, hj, hstop⟩ := isBoundary_iff_exists_take.1 h.2
  have hij : i ≤ j := by
    rcases Nat.lt_or_ge j i with hji | hij
    · have := measure_take_lt Char.utf8Size_pos hji hi
      have := range.start_le_stop
      omega
    · exact hij
  exact ⟨i, j, hij, hj, hstart, hstop⟩

/-- A range is valid if and only if its ends cut the text between characters. -/
theorem admits_iff_exists_cuts {source : Source} {range : ByteRange} :
    source.admits range = true ↔ ∃ before inside after, Cuts source range before inside after := by
  constructor
  · intro h
    obtain ⟨i, j, hij, _, hstart, hstop⟩ := exists_take_of_admits h
    have hsplit : source.text.toList.take i ++ (source.text.toList.drop i).take (j - i) =
        source.text.toList.take j := by
      rw [← List.take_add, Nat.add_sub_cancel' hij]
    refine ⟨source.text.toList.take i, (source.text.toList.drop i).take (j - i),
      source.text.toList.drop j, ?_, hstart.symm, ?_⟩
    · rw [hsplit, List.take_append_drop]
    · rw [hsplit, hstop]
  · rintro ⟨before, inside, after, htext, hstart, hstop⟩
    rw [Source.admits_iff]
    refine ⟨isBoundary_iff_exists_append.2 ⟨before, inside ++ after, ?_, hstart.symm⟩,
      isBoundary_iff_exists_append.2 ⟨before ++ inside, after, htext, hstop.symm⟩⟩
    rw [htext, List.append_assoc]

theorem Cuts.admits {source : Source} {range : ByteRange} {before inside after : List Char}
    (h : Cuts source range before inside after) : source.admits range = true :=
  admits_iff_exists_cuts.2 ⟨before, inside, after, h⟩

theorem Cuts.slice_eq {source : Source} {range : ByteRange} {before inside after : List Char}
    (h : Cuts source range before inside after) :
    source.slice range = .ok (String.ofList inside) := by
  rw [Source.slice, if_pos h.admits, Source.encoded, h.start_eq, h.stop_eq,
    extract_toByteArray h.text_eq, fromUTF8?_toByteArray]

/-- The slice over two ranges that meet end to end is the two slices end to end. -/
theorem slice_cover {source : Source} {a b : ByteRange} (ha : source.admits a = true)
    (hb : source.admits b = true) (hmeet : a.stop = b.start) :
    ∃ x y, source.slice a = .ok x ∧ source.slice b = .ok y ∧
      source.slice (a.cover b) = .ok (x ++ y) := by
  obtain ⟨before, x, rest, hx⟩ := admits_iff_exists_cuts.1 ha
  obtain ⟨front, y, after, hy⟩ := admits_iff_exists_cuts.1 hb
  have hfront : before ++ x = front := by
    have htext : (before ++ x) ++ rest = front ++ (y ++ after) := by
      rw [← hx.text_eq, hy.text_eq, List.append_assoc]
    apply eq_of_measure_eq Char.utf8Size_pos htext
    rw [← hx.stop_eq, hmeet, hy.start_eq]
  subst hfront
  have hcover : Cuts source (a.cover b) before (x ++ y) after := by
    refine ⟨?_, ?_, ?_⟩
    · rw [hy.text_eq]
      simp only [List.append_assoc]
    · have := a.start_le_stop
      rw [ByteRange.cover_start, ← hx.start_eq]
      omega
    · have := b.start_le_stop
      rw [ByteRange.cover_stop, ← List.append_assoc, ← hy.stop_eq]
      omega
  refine ⟨String.ofList x, String.ofList y, hx.slice_eq, hy.slice_eq, ?_⟩
  rw [hcover.slice_eq, String.ofList_append]

theorem admits_cover {source : Source} {a b : ByteRange} (ha : source.admits a = true)
    (hb : source.admits b = true) : source.admits (a.cover b) = true := by
  rw [Source.admits_iff] at ha hb ⊢
  constructor
  · rw [ByteRange.cover_start]
    rcases Nat.le_total a.start b.start with h | h
    · rw [Nat.min_eq_left h]
      exact ha.1
    · rw [Nat.min_eq_right h]
      exact hb.1
  · rw [ByteRange.cover_stop]
    rcases Nat.le_total a.stop b.stop with h | h
    · rw [Nat.max_eq_right h]
      exact hb.2
    · rw [Nat.max_eq_left h]
      exact ha.2

/-! ## Slices of several ranges -/

/-- The slices of the ranges, one behind the other. -/
def sliceAll (source : Source) : List ByteRange → Except Source.AddressError String
  | [] => .ok ""
  | range :: rest => do return (← source.slice range) ++ (← sliceAll source rest)

theorem sliceAll_cons {source : Source} {range : ByteRange} {text : String}
    (h : source.slice range = .ok text) (rest : List ByteRange) :
    sliceAll source (range :: rest) = (sliceAll source rest).map (text ++ ·) := by
  rw [sliceAll, h]
  cases sliceAll source rest <;> rfl

theorem sliceAll_cover_cons {source : Source} {a b : ByteRange} (ha : source.admits a = true)
    (hb : source.admits b = true) (hmeet : a.stop = b.start) (rest : List ByteRange) :
    sliceAll source (a.cover b :: rest) = sliceAll source (a :: b :: rest) := by
  obtain ⟨x, y, hx, hy, hcover⟩ := slice_cover ha hb hmeet
  rw [sliceAll_cons hcover, sliceAll_cons hx, sliceAll_cons hy]
  cases sliceAll source rest with
  | error e => rfl
  | ok text => exact congrArg Except.ok String.append_assoc

/-! ## Character indices -/

theorem charIndex_measure_take {source : Source} {i : Nat} (hi : i ≤ source.text.toList.length) :
    source.charIndex (measure Char.utf8Size (source.text.toList.take i)) = .ok i := by
  have hfound := lowerBound_offsets Char.utf8Size_pos hi
  simp only [Source.charIndex, Source.boundaries, Int.toNat_natCast, hfound,
    getElem?_offsets hi, Option.map_some]
  exact if_pos rfl

theorem charIndex_eq_error {source : Source} {offset : Nat}
    (h : source.isBoundary offset = false) :
    source.charIndex offset = .error (.insideCharacter offset source.id) := by
  rw [Source.charIndex]
  apply if_neg
  intro hentry
  obtain ⟨entry, hentry, hoffset⟩ := Option.map_eq_some_iff.1 hentry
  rw [Int.ofNat_inj.1 hoffset, Int.toNat_natCast, Source.boundaries] at hentry
  generalize lowerBound (offsets Char.utf8Size source.text.toList) offset = i at hentry
  by_cases hi : i ≤ source.text.toList.length
  · rw [getElem?_offsets hi] at hentry
    have hat := isBoundary_measure_take source i
    rw [Option.some.inj hentry, h] at hat
    cases hat
  · rw [getElem?_offsets_eq_none (by omega)] at hentry
    cases hentry

end ProseTrace.Proofs.Document.SourceCuts
