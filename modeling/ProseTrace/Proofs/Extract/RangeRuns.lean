import Mathlib.Data.List.Chain
import ProseTrace.Proofs.Extract.RangeMerging

/-!
# Runs of ranges

The ranges of a suggestion are merged run by run.  Each range of a run touches what the run covers
before it, and the first range of the next run does not touch what the last run covers.  A later
range of the next run still may: it is merged into its own run only, and the two runs end up as
neighbours that touch.  This takes a range that starts before an earlier one.
-/

namespace ProseTrace.Proofs.Extract.RangeRuns

open ProseTrace.Text ProseTrace.Document ProseTrace.Finding ProseTrace.Extract
open ProseTrace.Proofs.Extract.RangeMerging ProseTrace.Proofs.Text.RangeAlgebra

/-- Each range touches the cover of `base` and of the ranges before it. -/
def Connected (base : ByteRange) : List ByteRange → Prop
  | [] => True
  | range :: rest => base.touches range = true ∧ Connected (base.cover range) rest

structure Run where
  first : ByteRange
  more : List ByteRange
  connected : Connected first more

namespace Run

def ranges (run : Run) : List ByteRange := run.first :: run.more

def hull (run : Run) : ByteRange := run.more.foldl ByteRange.cover run.first

end Run

/-! ## What a run touches -/

theorem touches_foldl_cover_iff {base other : ByteRange} {ranges : List ByteRange}
    (h : Connected base ranges) :
    other.touches (ranges.foldl ByteRange.cover base) = true ↔
      other.touches base = true ∨ ∃ r ∈ ranges, other.touches r = true := by
  induction ranges generalizing base with
  | nil => simp
  | cons range rest ih =>
    obtain ⟨htouch, hrest⟩ := h
    rw [List.foldl_cons, ih hrest, touches_cover_iff htouch, or_assoc]
    simp only [List.mem_cons, exists_eq_or_imp]

theorem touches_hull_iff {run : Run} {other : ByteRange} :
    other.touches run.hull = true ↔ ∃ r ∈ run.ranges, other.touches r = true := by
  rw [Run.hull, touches_foldl_cover_iff run.connected, Run.ranges]
  simp only [List.mem_cons, exists_eq_or_imp]

/-! ## Merging run by run -/

def BeginsApart (run next : Run) : Prop := ¬ run.hull.touches next.first = true

/-- What a run covers touches the next one only where a later range of that one reaches back. -/
theorem BeginsApart.touches_iff {run next : Run} (h : BeginsApart run next) :
    run.hull.touches next.hull = true ↔ ∃ r ∈ next.more, run.hull.touches r = true := by
  rw [touches_hull_iff, Run.ranges]
  simp only [List.mem_cons, exists_eq_or_imp]
  exact or_iff_right h

theorem mergeInto_eq_hulls (last : ByteRange) (ranges : List ByteRange) :
    ∃ (run : Run) (runs : List Run), run.first = last ∧
      run.more ++ runs.flatMap Run.ranges = ranges ∧
      Mapping.mergeInto last ranges = (run :: runs).map Run.hull ∧
      (run :: runs).IsChain BeginsApart := by
  induction ranges generalizing last with
  | nil => exact ⟨⟨last, [], trivial⟩, [], rfl, rfl, rfl, .singleton _⟩
  | cons range rest ih =>
    rw [mergeInto_cons]
    split
    next htouch =>
      obtain ⟨run, runs, hfirst, hranges, hmerged, hchain⟩ := ih (last.cover range)
      have hconnected : Connected last (range :: run.more) := ⟨htouch, hfirst ▸ run.connected⟩
      have hhull : run.hull = Run.hull ⟨last, range :: run.more, hconnected⟩ := by
        rw [Run.hull, hfirst]
        rfl
      refine ⟨⟨last, range :: run.more, hconnected⟩, runs, rfl, ?_, ?_, ?_⟩
      · exact congrArg (range :: ·) hranges
      · rw [hmerged, List.map_cons, hhull, List.map_cons]
      · rw [List.isChain_cons] at hchain ⊢
        refine ⟨fun next hnext => ?_, hchain.2⟩
        have hapart := hchain.1 next hnext
        rwa [BeginsApart, hhull] at hapart
    next hapart =>
      obtain ⟨run, runs, hfirst, hranges, hmerged, hchain⟩ := ih range
      refine ⟨⟨last, [], trivial⟩, run :: runs, rfl, ?_, ?_, ?_⟩
      · rw [List.flatMap_cons, Run.ranges, hfirst, List.nil_append, List.cons_append, hranges]
      · rw [hmerged, List.map_cons (l := run :: runs)]
        rfl
      · refine List.isChain_cons_cons.2 ⟨?_, hchain⟩
        rw [BeginsApart, hfirst]
        exact hapart

theorem merge_eq_hulls (ranges : List ByteRange) :
    ∃ runs : List Run, runs.flatMap Run.ranges = ranges ∧
      Mapping.merge ranges = runs.map Run.hull ∧ runs.IsChain BeginsApart := by
  cases ranges with
  | nil => exact ⟨[], rfl, rfl, .nil⟩
  | cons range rest =>
    obtain ⟨run, runs, hfirst, hranges, hmerged, hchain⟩ := mergeInto_eq_hulls range rest
    refine ⟨run :: runs, ?_, hmerged, hchain⟩
    rw [List.flatMap_cons, Run.ranges, hfirst, List.cons_append, hranges]

/-- A suggestion is located at what the runs of its ranges cover.  A gap begins a new run, so the
first range of a run is apart from the run before it; the two neighbours touch just where a later
range of the run reaches back.  Where no range starts before an earlier one, no two results touch.
-/
theorem location_touches_iff (mapping : Mapping) (suggestion : Suggestion) (source : Source) :
    (∃ runs : List Run,
      runs.flatMap Run.ranges = mapping.markedRanges suggestion source ∧
      mapping.location suggestion source = runs.map Run.hull ∧
      runs.IsChain fun run next => ¬ run.hull.touches next.first = true ∧
        (run.hull.touches next.hull = true ↔ ∃ r ∈ next.more, run.hull.touches r = true)) ∧
    (Ascending (mapping.markedRanges suggestion source) →
      (mapping.location suggestion source).Pairwise fun a b => ¬ a.touches b = true) := by
  constructor
  · obtain ⟨runs, hranges, hmerged, hchain⟩ :=
      merge_eq_hulls (mapping.markedRanges suggestion source)
    refine ⟨runs, hranges, hmerged, hchain.imp fun run next hapart => ?_⟩
    exact ⟨hapart, BeginsApart.touches_iff hapart⟩
  · intro hascending
    refine (pairwise_merge hascending).imp fun {a b} hapart => ?_
    rw [ByteRange.touches_iff]
    omega

/-- Two pieces of a text in reversed order, read character by character: the second piece ends where
the first began, but its last character is merged only with the one before it. -/
theorem location_leaves_neighbours_touching :
    Mapping.location ⟨[some ⟨"f", 2, 3, by decide⟩, some ⟨"f", 0, 1, by decide⟩,
        some ⟨"f", 1, 2, by decide⟩]⟩
      ⟨0, 3, ⟨.null, [], .null, .null⟩, by decide⟩ ⟨"f", "abc"⟩ =
      [⟨2, 3, by decide⟩, ⟨0, 2, by decide⟩] ∧
    ByteRange.touches ⟨2, 3, by decide⟩ ⟨0, 2, by decide⟩ = true := by
  decide +kernel

end ProseTrace.Proofs.Extract.RangeRuns
