import ProseTrace.Proofs.Document.SourceCuts

/-!
# Character boundaries

A source knows its boundaries twice: by a mask on the encoded bytes, and by a table of the widths of
its characters.  Both agree on every integer, and the two conversions that read the table are
inverse to each other.
-/

namespace ProseTrace.Proofs.Document.Boundaries

open ProseTrace.Text ProseTrace.Document
open ProseTrace.Proofs.Text.OffsetTable ProseTrace.Proofs.Text.Utf8Bytes
open ProseTrace.Proofs.Document.SourceCuts

variable {source : Source}

/-! ## Byte offsets -/

theorem byteOffset_natCast {i : Nat} (hi : i ≤ source.text.toList.length) :
    source.byteOffset i = .ok (bytesBefore source.text.toList i) := by
  rw [Source.byteOffset, if_neg (by omega), Int.toNat_natCast, Source.boundaries,
    getElem?_offsets hi, bytesBefore_eq_measure]

theorem byteOffset_eq_error {i : Int} (h : i < 0 ∨ source.text.toList.length < i) :
    source.byteOffset i = .error (.noCharacter i source.id) := by
  rw [Source.byteOffset]
  rcases h with hneg | hbeyond
  · rw [if_pos hneg]
  · rw [if_neg (by omega), Source.boundaries, getElem?_offsets_eq_none (by omega)]

theorem exists_of_byteOffset_eq_ok {i : Int} {offset : Nat} (h : source.byteOffset i = .ok offset) :
    ∃ n : Nat, i = n ∧ n ≤ source.text.toList.length ∧
      offset = bytesBefore source.text.toList n := by
  by_cases hout : i < 0 ∨ source.text.toList.length < i
  · rw [byteOffset_eq_error hout] at h
    cases h
  · obtain ⟨n, rfl⟩ := Int.eq_ofNat_of_zero_le (show 0 ≤ i by omega)
    have hn : n ≤ source.text.toList.length := by omega
    rw [byteOffset_natCast hn] at h
    cases h
    exact ⟨n, rfl, hn, rfl⟩

theorem byteOffset_eq_error_iff {i : Int} :
    (∃ e, source.byteOffset i = .error e) ↔ i < 0 ∨ source.text.toList.length < i := by
  constructor
  · rintro ⟨e, he⟩
    by_cases hout : i < 0 ∨ source.text.toList.length < i
    · exact hout
    · obtain ⟨n, rfl⟩ := Int.eq_ofNat_of_zero_le (show 0 ≤ i by omega)
      rw [byteOffset_natCast (by omega)] at he
      cases he
  · intro h
    exact ⟨_, byteOffset_eq_error h⟩

theorem byteOffset_lt {i j : Int} {a b : Nat} (hi : source.byteOffset i = .ok a)
    (hj : source.byteOffset j = .ok b) (hij : i < j) : a < b := by
  obtain ⟨m, rfl, _, rfl⟩ := exists_of_byteOffset_eq_ok hi
  obtain ⟨n, rfl, hn, rfl⟩ := exists_of_byteOffset_eq_ok hj
  rw [bytesBefore_eq_measure, bytesBefore_eq_measure]
  exact measure_take_lt Char.utf8Size_pos (Int.ofNat_lt.1 hij) hn

theorem byteOffset_length (source : Source) :
    source.byteOffset source.text.length = .ok source.byteLength := by
  rw [← String.length_toList, byteOffset_natCast (Nat.le_refl _), bytesBefore, List.take_length,
    String.ofList_toList, Source.byteLength_eq]

/-! ## Character indices -/

theorem charIndex_bytesBefore {n : Nat} (hn : n ≤ source.text.toList.length) :
    source.charIndex (bytesBefore source.text.toList n) = .ok n := by
  rw [bytesBefore_eq_measure, charIndex_measure_take hn]

theorem charIndex_eq_error_of_isBoundaryAt {offset : Int} (h : source.isBoundaryAt offset = false) :
    source.charIndex offset = .error (.insideCharacter offset source.id) := by
  by_cases hneg : offset < 0
  · rw [Source.charIndex]
    apply if_neg
    intro hentry
    obtain ⟨entry, _, hoffset⟩ := Option.map_eq_some_iff.1 hentry
    have : (0 : Int) ≤ Int.ofNat entry := Int.natCast_nonneg entry
    omega
  · obtain ⟨n, rfl⟩ := Int.eq_ofNat_of_zero_le (show 0 ≤ offset by omega)
    rw [Source.isBoundaryAt, if_neg hneg] at h
    exact charIndex_eq_error h

/-- An offset that the mask accepts is the one of a character or of the end. -/
theorem exists_byteOffset_of_isBoundaryAt {offset : Int} (h : source.isBoundaryAt offset = true) :
    ∃ n : Nat, n ≤ source.text.toList.length ∧
      offset = (bytesBefore source.text.toList n : Nat) := by
  by_cases hneg : offset < 0
  · rw [Source.isBoundaryAt, if_pos hneg] at h
    cases h
  · obtain ⟨k, rfl⟩ := Int.eq_ofNat_of_zero_le (show 0 ≤ offset by omega)
    rw [Source.isBoundaryAt, if_neg hneg] at h
    obtain ⟨n, hn, hoffset⟩ := isBoundary_iff_exists_take.1 h
    refine ⟨n, hn, ?_⟩
    rw [bytesBefore_eq_measure, hoffset]
    rfl

theorem isBoundaryAt_iff_charIndex {offset : Int} :
    source.isBoundaryAt offset = true ↔ ∃ n, source.charIndex offset = .ok n := by
  constructor
  · intro h
    obtain ⟨n, hn, rfl⟩ := exists_byteOffset_of_isBoundaryAt h
    exact ⟨n, charIndex_bytesBefore hn⟩
  · rintro ⟨n, hn⟩
    apply Bool.of_not_eq_false
    intro hrefused
    rw [charIndex_eq_error_of_isBoundaryAt hrefused] at hn
    cases hn

theorem byteOffset_charIndex {offset : Int} {n : Nat} (h : source.charIndex offset = .ok n) :
    ∃ k : Nat, source.byteOffset n = .ok k ∧ offset = k := by
  obtain ⟨m, hm, rfl⟩ := exists_byteOffset_of_isBoundaryAt (isBoundaryAt_iff_charIndex.2 ⟨n, h⟩)
  rw [charIndex_bytesBefore hm] at h
  cases h
  exact ⟨_, byteOffset_natCast hm, rfl⟩

/-- Mask and table agree on the boundaries of a source, which are the byte offsets of its
characters; these are the byte counts of the prefixes, in ascending order, and character indices and
byte offsets are turned into each other without loss. -/
theorem boundaries_agree (source : Source) :
    (∀ offset : Int,
      (source.isBoundaryAt offset = true ↔ ∃ n, source.charIndex offset = .ok n) ∧
      ((∃ n, source.charIndex offset = .ok n) ↔
        ∃ i : Nat, i ≤ source.text.length ∧ ∃ k : Nat, source.byteOffset i = .ok k ∧ offset = k)) ∧
    (∀ i : Int, (∃ e, source.byteOffset i = .error e) ↔ i < 0 ∨ source.text.length < i) ∧
    (∀ n : Nat, n ≤ source.text.length →
      source.byteOffset n = .ok (bytesBefore source.text.toList n) ∧
      source.charIndex (bytesBefore source.text.toList n) = .ok n) ∧
    (∀ (offset : Int) (n : Nat), source.charIndex offset = .ok n →
      ∃ k : Nat, source.byteOffset n = .ok k ∧ offset = k) ∧
    (∀ (i j : Int) (a b : Nat), source.byteOffset i = .ok a → source.byteOffset j = .ok b →
      i < j → a < b) ∧
    source.byteOffset source.text.length = .ok source.byteLength := by
  rw [← String.length_toList]
  refine ⟨fun offset => ⟨isBoundaryAt_iff_charIndex, ?_⟩, fun i => byteOffset_eq_error_iff,
    fun n hn => ⟨byteOffset_natCast hn, charIndex_bytesBefore hn⟩,
    fun offset n h => byteOffset_charIndex h, fun i j a b hi hj hij => byteOffset_lt hi hj hij,
    byteOffset_length source⟩
  constructor
  · rintro ⟨n, hn⟩
    obtain ⟨k, hk, rfl⟩ := byteOffset_charIndex hn
    obtain ⟨m, hm, hle, _⟩ := exists_of_byteOffset_eq_ok hk
    exact ⟨n, by omega, k, hk, rfl⟩
  · rintro ⟨i, hi, k, hk, rfl⟩
    rw [byteOffset_natCast hi] at hk
    cases hk
    exact ⟨i, charIndex_bytesBefore hi⟩

end ProseTrace.Proofs.Document.Boundaries
