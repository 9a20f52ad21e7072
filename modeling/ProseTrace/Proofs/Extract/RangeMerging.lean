import ProseTrace.Extract.Mapping
import ProseTrace.Proofs.Document.SourceCuts
import ProseTrace.Proofs.Text.RangeAlgebra

/-!
# Merging the ranges of a suggestion

A suggestion is located by merging, from left to right, the ranges of the characters that it marks.
Both ways of taking a range in replace the last range by the least one that contains the two, and
only where the two touch; so no byte is added and none is lost, whatever the order of the ranges.
Where no range starts before an earlier one the merged ranges also keep apart from each other, and
where the ranges come in the order of the source they read the same.
-/

namespace ProseTrace.Proofs.Extract.RangeMerging

open ProseTrace.Text ProseTrace.Document ProseTrace.Finding ProseTrace.Extract
open ProseTrace.Proofs.Document.SourceCuts ProseTrace.Proofs.Text.RangeAlgebra

/-! ## Ranges in any order -/

/-- A range that lies within the last one is merged like any other that touches it. -/
theorem mergeInto_cons (last range : ByteRange) (rest : List ByteRange) :
    Mapping.mergeInto last (range :: rest) =
      if last.touches range then Mapping.mergeInto (last.cover range) rest
      else last :: Mapping.mergeInto range rest := by
  rw [Mapping.mergeInto]
  by_cases hcontains : last.contains range = true
  · rw [if_pos hcontains, if_pos (touches_of_contains hcontains), cover_eq_of_contains hcontains]
  · rw [if_neg hcontains]

theorem mem_mergeInto_iff (last : ByteRange) (ranges : List ByteRange) (byte : Nat) :
    (∃ r ∈ Mapping.mergeInto last ranges, byte ∈ r) ↔ byte ∈ last ∨ ∃ r ∈ ranges, byte ∈ r := by
  -- Of the last range nothing may be known: it grows with each range that it takes in.
  induction ranges generalizing last with
  | nil => simp [Mapping.mergeInto]
  | cons range rest ih =>
    rw [mergeInto_cons]
    split
    next htouch =>
      simp only [ih, mem_cover_iff htouch, List.mem_cons, exists_eq_or_imp, or_assoc]
    next =>
      simp only [List.mem_cons, exists_eq_or_imp, ih]

theorem mem_merge_iff (ranges : List ByteRange) (byte : Nat) :
    (∃ r ∈ Mapping.merge ranges, byte ∈ r) ↔ ∃ r ∈ ranges, byte ∈ r := by
  cases ranges with
  | nil => rfl
  | cons range rest => simp only [Mapping.merge, mem_mergeInto_iff, List.mem_cons, exists_eq_or_imp]

theorem admits_of_mem_mergeInto {source : Source} {last : ByteRange} {ranges : List ByteRange}
    (hlast : source.admits last = true) (h : ∀ r ∈ ranges, source.admits r = true) :
    ∀ r ∈ Mapping.mergeInto last ranges, source.admits r = true := by
  induction ranges generalizing last with
  | nil => simpa [Mapping.mergeInto] using hlast
  | cons range rest ih =>
    have hrange : source.admits range = true := h range (by simp)
    have hrest : ∀ r ∈ rest, source.admits r = true := fun r hr => h r (by simp [hr])
    rw [mergeInto_cons]
    split
    next => exact ih (admits_cover hlast hrange) hrest
    next =>
      intro r hr
      rcases List.mem_cons.1 hr with rfl | hr
      · exact hlast
      · exact ih hrange hrest r hr

theorem admits_of_mem_merge {source : Source} {ranges : List ByteRange}
    (h : ∀ r ∈ ranges, source.admits r = true) :
    ∀ r ∈ Mapping.merge ranges, source.admits r = true := by
  cases ranges with
  | nil => simp [Mapping.merge]
  | cons range rest =>
    exact admits_of_mem_mergeInto (h range (by simp)) fun r hr => h r (by simp [hr])

/-! ## The entries that a suggestion marks -/

theorem mem_marked_iff {α : Type} {suggestion : Suggestion} {items : List α} {item : α} :
    item ∈ suggestion.marked items ↔
      ∃ i, suggestion.start ≤ i ∧ i < suggestion.stop ∧ items[i]? = some item := by
  rw [Suggestion.marked, List.mem_iff_getElem?]
  constructor
  · rintro ⟨k, hk⟩
    rw [List.getElem?_take] at hk
    split at hk
    next hlt =>
      rw [List.getElem?_drop] at hk
      exact ⟨suggestion.start + k, by omega, by omega, hk⟩
    next => cases hk
  · rintro ⟨i, hstart, hstop, hi⟩
    refine ⟨i - suggestion.start, ?_⟩
    rw [List.getElem?_take, if_pos (by omega), List.getElem?_drop, Nat.add_sub_cancel' hstart, hi]

/-- A range that stands for a marked character and lies in the source. -/
def IsEligible (mapping : Mapping) (suggestion : Suggestion) (source : Source)
    (range : ByteRange) : Prop :=
  ∃ i, suggestion.start ≤ i ∧ i < suggestion.stop ∧
    mapping.spans[i]? = some (some ⟨source.id, range⟩) ∧ source.admits range = true

theorem mem_markedRanges_iff {mapping : Mapping} {suggestion : Suggestion} {source : Source}
    {range : ByteRange} :
    range ∈ mapping.markedRanges suggestion source ↔
      IsEligible mapping suggestion source range := by
  rw [Mapping.markedRanges, List.mem_filterMap]
  constructor
  · rintro ⟨span, hspan, hrange⟩
    obtain ⟨rfl, hadmits⟩ := Mapping.rangeIn?_eq_some_iff.1 hrange
    obtain ⟨i, hstart, hstop, hi⟩ := mem_marked_iff.1 hspan
    exact ⟨i, hstart, hstop, hi, hadmits⟩
  · rintro ⟨i, hstart, hstop, hi, hadmits⟩
    exact ⟨some ⟨source.id, range⟩, mem_marked_iff.2 ⟨i, hstart, hstop, hi⟩,
      Mapping.rangeIn?_eq_some_iff.2 ⟨rfl, hadmits⟩⟩

theorem admits_of_mem_location {mapping : Mapping} {suggestion : Suggestion} {source : Source} :
    ∀ r ∈ mapping.location suggestion source, source.admits r = true := by
  apply admits_of_mem_merge
  intro r hr
  obtain ⟨_, _, _, _, hadmits⟩ := mem_markedRanges_iff.1 hr
  exact hadmits

/-- A suggestion is located at valid ranges, which have exactly the bytes of the eligible entries;
there are none only if no entry is eligible. -/
theorem location_sound_complete (mapping : Mapping) (suggestion : Suggestion) (source : Source) :
    (∀ r ∈ mapping.location suggestion source, source.admits r = true) ∧
    (∀ byte, (∃ r ∈ mapping.location suggestion source, byte ∈ r) ↔
      ∃ r, IsEligible mapping suggestion source r ∧ byte ∈ r) ∧
    (mapping.location suggestion source = [] ↔
      ¬ ∃ r, IsEligible mapping suggestion source r) := by
  refine ⟨admits_of_mem_location, ?_, ?_⟩
  · intro byte
    rw [Mapping.location, mem_merge_iff]
    simp only [mem_markedRanges_iff]
  · rw [Mapping.location, Mapping.merge_eq_nil_iff, List.eq_nil_iff_forall_not_mem]
    simp only [mem_markedRanges_iff, not_exists]

/-! ## Ranges in the order of the source -/

/-- Each range ends before or where the later ones start. -/
abbrev InOrder (ranges : List ByteRange) : Prop :=
  ranges.Pairwise fun a b => a.stop ≤ b.start

theorem inOrder_cover_cons {a b : ByteRange} {rest : List ByteRange}
    (h : InOrder (a :: b :: rest)) : InOrder (a.cover b :: rest) := by
  obtain ⟨ha, hrest⟩ := List.pairwise_cons.1 h
  obtain ⟨hb, hrest⟩ := List.pairwise_cons.1 hrest
  refine List.pairwise_cons.2 ⟨fun r hr => ?_, hrest⟩
  have har := ha r (List.mem_cons_of_mem b hr)
  have hbr := hb r hr
  rw [ByteRange.cover_stop]
  omega

theorem stop_eq_start_of_touches {a b : ByteRange} {rest : List ByteRange}
    (h : InOrder (a :: b :: rest)) (htouch : a.touches b = true) : a.stop = b.start := by
  have hle : a.stop ≤ b.start := List.rel_of_pairwise_cons h List.mem_cons_self
  rw [ByteRange.touches_iff] at htouch
  omega

/-- No range starts before an earlier one. -/
abbrev Ascending (ranges : List ByteRange) : Prop :=
  ranges.Pairwise fun a b => a.start ≤ b.start

theorem ascending_of_inOrder {ranges : List ByteRange} (h : InOrder ranges) : Ascending ranges :=
  h.imp fun {a _} hab => Nat.le_trans a.start_le_stop hab

theorem ascending_cover_cons {a b : ByteRange} {rest : List ByteRange}
    (h : Ascending (a :: b :: rest)) : Ascending (a.cover b :: rest) := by
  obtain ⟨ha, hrest⟩ := List.pairwise_cons.1 h
  refine List.pairwise_cons.2 ⟨fun r hr => ?_, (List.pairwise_cons.1 hrest).2⟩
  have har := ha r (List.mem_cons_of_mem b hr)
  rw [ByteRange.cover_start]
  omega

theorem start_le_of_mem_mergeInto {last : ByteRange} {ranges : List ByteRange}
    (h : Ascending (last :: ranges)) :
    ∀ r ∈ Mapping.mergeInto last ranges, last.start ≤ r.start := by
  induction ranges generalizing last with
  | nil => simp [Mapping.mergeInto]
  | cons range rest ih =>
    have hle : last.start ≤ range.start := List.rel_of_pairwise_cons h List.mem_cons_self
    intro r hr
    rw [mergeInto_cons] at hr
    split at hr
    next =>
      have hr := ih (ascending_cover_cons h) r hr
      rw [ByteRange.cover_start] at hr
      omega
    next =>
      rcases List.mem_cons.1 hr with rfl | hr
      · exact Nat.le_refl _
      · have hr := ih (List.pairwise_cons.1 h).2 r hr
        omega

/-- Ranges that ascend are merged to ranges that are apart by at least one byte. -/
theorem pairwise_mergeInto {last : ByteRange} {ranges : List ByteRange}
    (h : Ascending (last :: ranges)) :
    (Mapping.mergeInto last ranges).Pairwise fun a b => a.stop < b.start := by
  induction ranges generalizing last with
  | nil => simp [Mapping.mergeInto]
  | cons range rest ih =>
    rw [mergeInto_cons]
    split
    next => exact ih (ascending_cover_cons h)
    next hapart =>
      have hle : last.start ≤ range.start := List.rel_of_pairwise_cons h List.mem_cons_self
      have hrest : Ascending (range :: rest) := (List.pairwise_cons.1 h).2
      refine List.pairwise_cons.2 ⟨fun r hr => ?_, ih hrest⟩
      have hr := start_le_of_mem_mergeInto hrest r hr
      rw [ByteRange.touches_iff] at hapart
      have := range.start_le_stop
      omega

theorem sliceAll_mergeInto {source : Source} {last : ByteRange} {ranges : List ByteRange}
    (hlast : source.admits last = true) (hranges : ∀ r ∈ ranges, source.admits r = true)
    (h : InOrder (last :: ranges)) :
    sliceAll source (Mapping.mergeInto last ranges) = sliceAll source (last :: ranges) := by
  induction ranges generalizing last with
  | nil => rfl
  | cons range rest ih =>
    have hrange : source.admits range = true := hranges range (by simp)
    have hrest : ∀ r ∈ rest, source.admits r = true := fun r hr => hranges r (by simp [hr])
    rw [mergeInto_cons]
    split
    next htouch =>
      rw [ih (admits_cover hlast hrange) hrest (inOrder_cover_cons h),
        sliceAll_cover_cons hlast hrange (stop_eq_start_of_touches h htouch)]
    next =>
      rw [sliceAll, ih hrange hrest (List.pairwise_cons.1 h).2]
      rfl

theorem pairwise_merge {ranges : List ByteRange} (h : Ascending ranges) :
    (Mapping.merge ranges).Pairwise fun a b => a.stop < b.start := by
  cases ranges with
  | nil => exact List.Pairwise.nil
  | cons range rest => exact pairwise_mergeInto h

theorem sliceAll_merge {source : Source} {ranges : List ByteRange}
    (hranges : ∀ r ∈ ranges, source.admits r = true) (h : InOrder ranges) :
    sliceAll source (Mapping.merge ranges) = sliceAll source ranges := by
  cases ranges with
  | nil => rfl
  | cons range rest =>
    exact sliceAll_mergeInto (hranges range (by simp)) (fun r hr => hranges r (by simp [hr])) h

end ProseTrace.Proofs.Extract.RangeMerging
