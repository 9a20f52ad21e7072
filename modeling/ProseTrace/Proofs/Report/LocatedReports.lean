import ProseTrace.Checker.Recorder
import ProseTrace.Proofs.Extract.RangeMerging
import ProseTrace.Proofs.Finding.LocatedReference
import ProseTrace.Proofs.Report.CheckedSegments
import ProseTrace.Proofs.Text.WindowRuns

/-!
# Locating what a check reports

A collector keeps only diagnostics with a place in its source, and their locations are valid ranges
there, whatever the mappings of the segments were.  So the diagnostics of a report can always be
located.  Each located range ends on the line where it starts, and its columns count the characters
between.
-/

namespace ProseTrace.Proofs.Report.LocatedReports

open ProseTrace.Text ProseTrace.Document ProseTrace.Extract ProseTrace.Finding ProseTrace.Checker
open ProseTrace.Proofs.Text.OffsetTable ProseTrace.Proofs.Text.ExactPlaces
open ProseTrace.Proofs.Text.CursorRuns ProseTrace.Proofs.Text.WindowRuns
open ProseTrace.Proofs.Document.SourceCuts ProseTrace.Proofs.Extract.RangeMerging
open ProseTrace.Proofs.Finding.LocatedReference
open ProseTrace.Proofs.Report.Gathering ProseTrace.Proofs.Report.CheckedSegments

/-! ## Located ranges -/

/-- The end lies within the range, on the line of the start, and as many columns behind it as the
source has characters between them. -/
structure IsOnLine (source : Source) (r : LocatedRange) : Prop where
  start_eq : r.start.byte = r.range.start
  start_le : r.start.byte ≤ r.stop.byte
  stop_le : r.stop.byte ≤ r.range.stop
  line_eq : r.stop.line = r.start.line
  column_eq : ∃ between, source.slice ⟨r.start.byte, r.stop.byte, start_le⟩ = .ok between ∧
    r.stop.column = r.start.column + between.length

theorem newline_not_mem_extract {text : List Char} {first last : Nat}
    (hfirst : first ≤ text.length) (hlast : last ≤ lineEndFrom text first) :
    '\n' ∉ text.extract first last := by
  intro hmem
  obtain ⟨k, hk, hk', hfeed⟩ := exists_getElem?_of_mem_extract hmem
  have hend := (lineEndFrom_spec hfirst).2.2 k hk ⟨'\n', hfeed, Or.inl rfl⟩
  omega

/-- The place reached on the line of the character `first`, told from the place there. -/
theorem placeAt_of_le_lineEndFrom {text : List Char} {first last : Nat} (hle : first ≤ last)
    (hfirst : first ≤ text.length) (hlast : last ≤ lineEndFrom text first) (line : Int) :
    placeAt line text last =
      ⟨(placeAt line text first).byte + measure Char.utf8Size (text.extract first last),
        (placeAt line text first).line,
        (placeAt line text first).column + (text.extract first last).length⟩ := by
  have hfeed := newline_not_mem_extract hfirst hlast
  rw [placeAt, ← take_append_extract hle, measure_append, List.count_append,
    List.count_eq_zero.2 hfeed, columnBehind_append, if_neg hfeed, Nat.add_zero]
  rfl

theorem isOnLine_placeAt {source : Source} {range : ByteRange} {first last : Nat}
    (hle : first ≤ last) (hlength : last ≤ source.text.toList.length)
    (hline : last ≤ lineEndFrom source.text.toList first)
    (hstart : measure Char.utf8Size (source.text.toList.take first) = range.start)
    (hstop : measure Char.utf8Size (source.text.toList.take last) ≤ range.stop) :
    IsOnLine source
      ⟨range, placeAt 0 source.text.toList first, placeAt 0 source.text.toList last⟩ := by
  have hsplit : source.text.toList.take first ++ source.text.toList.extract first last =
      source.text.toList.take last := take_append_extract hle
  have hmeasure := congrArg (measure Char.utf8Size) hsplit
  rw [measure_append] at hmeasure
  rw [placeAt_of_le_lineEndFrom hle (Nat.le_trans hle hlength) hline]
  have hcuts : Cuts source
      ⟨measure Char.utf8Size (source.text.toList.take first),
        measure Char.utf8Size (source.text.toList.take first) +
          measure Char.utf8Size (source.text.toList.extract first last), Nat.le_add_right _ _⟩
      (source.text.toList.take first) (source.text.toList.extract first last)
      (source.text.toList.drop last) := by
    refine ⟨?_, rfl, ?_⟩
    · rw [hsplit, List.take_append_drop]
    · rw [measure_append]
  refine ⟨hstart, Nat.le_add_right _ _, ?_, rfl, _, hcuts.slice_eq, ?_⟩
  · show measure _ _ + measure _ _ ≤ range.stop
    omega
  · rw [String.length_ofList]

theorem isOnLine_locateAlone {source : Source} {range : ByteRange}
    (h : source.admits range = true) : IsOnLine source (locateAlone source range) := by
  have hcovers := covers_of_admits h
  have hlocated : locateAlone source range =
      ⟨range, ⟨range.start,
        (source.text.toList.take (charsBefore source.text.toList range.start)).count '\n',
        columnBehind (source.text.toList.take (charsBefore source.text.toList range.start))⟩,
        placeAt 0 source.text.toList (min (charsBefore source.text.toList range.stop)
          (lineEndFrom source.text.toList (charsBefore source.text.toList range.start)))⟩ := rfl
  generalize charsBefore source.text.toList range.start = first at hcovers hlocated
  generalize charsBefore source.text.toList range.stop = last at hcovers hlocated
  obtain ⟨hle, hlast, hstart, hstop⟩ := hcovers
  have hfirst : first ≤ source.text.toList.length := Nat.le_trans hle hlast
  have hend := (lineEndFrom_spec hfirst).1
  have hbytes := measure_take_le Char.utf8Size source.text.toList
    (Nat.min_le_left last (lineEndFrom source.text.toList first))
  have hbelow : measure Char.utf8Size (source.text.toList.take
      (min last (lineEndFrom source.text.toList first))) ≤ range.stop := by omega
  have hplace := isOnLine_placeAt (Nat.le_min.2 ⟨hle, hend⟩)
    (Nat.le_trans (Nat.min_le_left _ _) hlast) (Nat.min_le_right _ _) hstart hbelow
  rw [placeAt, hstart, Int.zero_add] at hplace
  rw [hlocated]
  exact hplace

/-! ## Collected diagnostics -/

/-- The diagnostic has a place, and all of it is valid in the source. -/
def IsPlaced (source : Source) (d : Diagnostic) : Prop :=
  d.locations ≠ [] ∧ ∀ r ∈ d.locations, source.admits r = true

theorem isPlaced_of_place? {source : Source} {mapping : Mapping} {s : Suggestion}
    {d : Diagnostic} (h : Collector.place? source mapping s = some d) : IsPlaced source d := by
  cases hplace : mapping.location s source with
  | nil =>
    rw [Collector.place?_eq_none_iff.2 hplace] at h
    cases h
  | cons range ranges =>
    rw [place?_eq_some hplace, ← hplace] at h
    obtain rfl := Option.some.inj h
    refine ⟨?_, admits_of_mem_location⟩
    show mapping.location s source ≠ []
    simp [hplace]

/-- All that the collector holds has a place in its source. -/
def HoldsPlaced (c : Collector) : Prop := ∀ d ∈ c.diagnostics, IsPlaced c.source d

theorem holdsPlaced_enlarge {c : Collector} (h : HoldsPlaced c) (mapping : Mapping)
    (suggestions : List Suggestion) : HoldsPlaced (enlarge c mapping suggestions) := by
  intro d hd
  rcases List.mem_append.1 hd with hd | hd
  · exact h d hd
  · obtain ⟨s, _, hplace⟩ := List.mem_filterMap.1 hd
    exact isPlaced_of_place? hplace

theorem holdsPlaced_gather (c next : Collector) (found : List Suggestion) (mapping : Mapping)
    (h : HoldsPlaced c) (hgather : (c.gather found mapping).value = .ok next) :
    HoldsPlaced next := by
  rw [Collector.gather, Logged.value_bind, value_takeAll] at hgather
  cases houtcome : outcome c.source mapping found with
  | error error =>
    rw [houtcome] at hgather
    cases hgather
  | ok _ =>
    rw [houtcome] at hgather
    obtain rfl := Except.ok.inj hgather
    exact holdsPlaced_enlarge h mapping _

section

variable {σ : Type} [Backend σ]

theorem isPlaced_of_mem_report {world : World} {file : FileId} {segments : List Segment}
    {options : Config.CheckOptions} {checker : σ} {report : Report}
    (h : (Report.ofFile world file segments options checker).value.1 = .ok report) :
    ∀ d ∈ report.diagnostics, IsPlaced report.source d := by
  cases hsource : world.source file with
  | error error =>
    rw [value_ofFile_of_error hsource] at h
    cases h
  | ok source =>
    have hempty : HoldsPlaced ⟨source, [], 0, false⟩ := by
      intro d hd
      cases hd
    rw [value_ofFile_of_ok hsource] at h
    cases hrun : (Report.checkSegments file options.language ⟨source, [], 0, false⟩ checker
        segments).value with
    | mk result ended =>
      rw [hrun] at h
      cases result with
      | error failure => cases h
      | ok last =>
        obtain rfl := Except.ok.inj h
        exact invariant_checkSegments holdsPlaced_gather hempty hrun

/-- The diagnostics of a report can be located, in order, whatever the mappings of the segments and
the answers of the checker were.  Each has a location; each of its located ranges begins where the
location does, and ends within it on the same line, as many columns on as there are characters
between. -/
theorem locate_report (world : World) (file : FileId) (segments : List Segment)
    (options : Config.CheckOptions) (checker : σ) (report : Report)
    (h : (Report.ofFile world file segments options checker).value.1 = .ok report) :
    ∃ located, LocatedDiagnostic.locate report.source report.diagnostics = .ok located ∧
      located.map LocatedDiagnostic.diagnostic = report.diagnostics ∧
      ∀ d ∈ located, d.diagnostic.locations ≠ [] ∧
        d.ranges.map LocatedRange.range = d.diagnostic.locations ∧
        ∀ r ∈ d.ranges, IsOnLine report.source r := by
  have hplaced := isPlaced_of_mem_report h
  refine ⟨_, locate_eq_ok fun d hd => (hplaced d hd).2, ?_, ?_⟩
  · rw [List.map_map]
    exact List.map_id' report.diagnostics
  · intro d hd
    obtain ⟨diagnostic, hmem, rfl⟩ := List.mem_map.1 hd
    obtain ⟨hlocations, hvalid⟩ := hplaced diagnostic hmem
    refine ⟨hlocations, ?_, ?_⟩
    · show (diagnostic.locations.map (locateAlone report.source)).map LocatedRange.range = _
      rw [List.map_map]
      exact List.map_id' diagnostic.locations
    · intro r hr
      obtain ⟨range, hrange, rfl⟩ := List.mem_map.1 hr
      exact isOnLine_locateAlone (hvalid range hrange)

end

/-! ## A segment mapped at random -/

def roughNote : Source := ⟨"note", "a\r\né😀 b\nx"⟩

/-- The first suggestion marks characters from another file, from within a character, from no node
and from the last line before the first; the second one marks nothing of the note. -/
def roughSegment : Segment where
  text := "fjörds"
  mapping := ⟨[some ⟨"other", .ofSize 0 1⟩, some ⟨"note", .ofSize 4 5⟩, none,
    some ⟨"note", .ofSize 10 3⟩, some ⟨"note", .ofSize 0 3⟩, some ⟨"note", .ofSize 3 6⟩]⟩
  language := none

def roughRemark : Remark := ⟨.text "odd", [], .text "", .text ""⟩

def roughFinding (stop : Nat) : Suggestion := ⟨0, stop, roughRemark, Nat.zero_le stop⟩

def roughFindings : List Suggestion := [roughFinding 9, roughFinding 3]

def roughReport : Report where
  source := roughNote
  diagnostics := [⟨[.ofSize 10 3, .ofSize 0 9], roughRemark⟩]
  dropped := 1

theorem gather_roughFindings :
    ((⟨roughNote, [], 0, false⟩ : Collector).gather roughFindings roughSegment.mapping).value =
      .ok ⟨roughNote, roughReport.diagnostics, 1, false⟩ := by
  have hfirst : roughSegment.mapping.location (roughFinding 9) roughNote =
      [.ofSize 10 3, .ofSize 0 9] := by decide +kernel
  have hsecond : roughSegment.mapping.location (roughFinding 3) roughNote = [] := by
    decide +kernel
  have hsize : Numeral.isWritable (9 : Nat) = true := by decide +kernel
  have hstop : ∀ s ∈ roughFindings, s.stop ≤ 9 := by decide
  have hremark : (roughFinding 9).remark = roughRemark := rfl
  rw [value_gather _ hsize hstop, filterMap_place?, unplaced_eq]
  simp [roughFindings, roughReport, hfirst, hsecond, hremark, Diagnostic.ofSuggestion]

theorem locate_roughReport :
    (Report.ofFile (World.ofTexts [("note", roughNote.text)]) "note" [roughSegment]
        ⟨"en-US", [], []⟩ (Recorder.start [.ok roughFindings])).value.1 = .ok roughReport ∧
      ∃ located, LocatedDiagnostic.locate roughNote roughReport.diagnostics = .ok located ∧
        located.map LocatedDiagnostic.diagnostic = roughReport.diagnostics ∧
        ∀ d ∈ located, d.diagnostic.locations ≠ [] ∧
          d.ranges.map LocatedRange.range = d.diagnostic.locations ∧
          ∀ r ∈ d.ranges, IsOnLine roughNote r := by
  have hreport : (Report.ofFile (World.ofTexts [("note", roughNote.text)]) "note" [roughSegment]
      ⟨"en-US", [], []⟩ (Recorder.start [.ok roughFindings])).value.1 = .ok roughReport := by
    have hsource : (World.ofTexts [("note", roughNote.text)]).source "note" = .ok roughNote := rfl
    have hblank : isBlankText roughSegment.text = false := by decide +kernel
    have hcheck : (Backend.check (Recorder.start [.ok roughFindings])
        (Config.languageOrDefault roughSegment.language "en-US") roughSegment.text).value =
          (.ok roughFindings, ⟨[], [.check "en-US" "fjörds"]⟩) := rfl
    rw [value_ofFile_of_ok hsource, value_checkSegments_cons hblank hcheck gather_roughFindings]
    rfl
  exact ⟨hreport, locate_report _ _ _ _ _ _ hreport⟩

end ProseTrace.Proofs.Report.LocatedReports
