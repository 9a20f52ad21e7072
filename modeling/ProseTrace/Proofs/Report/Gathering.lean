import Mathlib.Data.List.Basic
import ProseTrace.Report

/-!
# Gathering what checks find

The steps of a run over the segments of a file.  A segment of white space is passed over.  Any other
one is checked, and what is found is gathered, unless the check fails or a suggestion without a
place has an index that cannot be written to the log.  Suggestions are taken in one by one, so that
those before such a one are held, and those behind it are lost.
-/

namespace ProseTrace.Proofs.Report.Gathering

open ProseTrace.Text ProseTrace.Document ProseTrace.Extract ProseTrace.Finding ProseTrace.Checker

/-! ## Writing to the log -/

theorem isWritable_of_le {size n : Nat} (h : Numeral.isWritable size = true) (hn : n ≤ size) :
    Numeral.isWritable n = true := by
  rw [Numeral.isWritable, decide_eq_true_eq, Int.natAbs_natCast] at h
  rw [Numeral.isWritable, Int.natAbs_natCast]
  exact decide_eq_true (Nat.lt_of_le_of_lt hn h)

theorem write_eq_ok {size n : Nat} (h : Numeral.isWritable size = true) (hn : n ≤ size) :
    Numeral.write n = .ok (toString (n : Int)) := by
  rw [Numeral.write, if_pos (isWritable_of_le h hn)]

def IsWritable (suggestion : Suggestion) : Prop := Numeral.isWritable suggestion.stop = true

theorem dropNote_eq_ok {suggestion : Suggestion} (h : IsWritable suggestion) (source : Source) :
    ∃ entry, Collector.dropNote source suggestion = .ok entry := by
  rw [Collector.dropNote, write_eq_ok h suggestion.start_le_stop, write_eq_ok h (Nat.le_refl _)]
  exact ⟨_, rfl⟩

theorem dropNote_eq_error {suggestion : Suggestion} (h : ¬ IsWritable suggestion)
    (source : Source) : Collector.dropNote source suggestion = .error ⟨none⟩ := by
  have hstop : Numeral.write suggestion.stop = .error ⟨none⟩ := by
    rw [Numeral.write]
    exact if_neg h
  rw [Collector.dropNote, hstop]
  unfold Numeral.write
  split <;> rfl

/-! ## Placing suggestions -/

theorem place?_eq_some {source : Source} {mapping : Mapping} {s : Suggestion} {range : ByteRange}
    {ranges : List ByteRange} (h : mapping.location s source = range :: ranges) :
    Collector.place? source mapping s = some (.ofSuggestion s (range :: ranges)) := by
  rw [Collector.place?, h]

theorem filterMap_place? (source : Source) (mapping : Mapping) (suggestions : List Suggestion) :
    suggestions.filterMap (Collector.place? source mapping) =
      (suggestions.filter fun s => !(mapping.location s source).isEmpty).map fun s =>
        .ofSuggestion s (mapping.location s source) := by
  induction suggestions with
  | nil => rfl
  | cons s rest ih =>
    cases hplace : mapping.location s source with
    | nil =>
      have hnone := Collector.place?_eq_none_iff.2 hplace
      rw [List.filterMap_cons_none hnone, ih, List.filter_cons_of_neg (by simp [hplace])]
    | cons range ranges =>
      rw [List.filterMap_cons_some (place?_eq_some hplace), ih,
        List.filter_cons_of_pos (by simp [hplace]), List.map_cons, hplace]

def unplaced (source : Source) (mapping : Mapping) (suggestions : List Suggestion) :
    List Suggestion :=
  suggestions.filter fun s => (Collector.place? source mapping s).isNone

theorem unplaced_eq (source : Source) (mapping : Mapping) (suggestions : List Suggestion) :
    unplaced source mapping suggestions =
      suggestions.filter fun s => (mapping.location s source).isEmpty := by
  apply List.filter_congr
  intro s _
  unfold Collector.place?
  cases mapping.location s source <;> rfl

theorem length_add_unplaced (source : Source) (mapping : Mapping) (suggestions : List Suggestion) :
    (suggestions.filterMap (Collector.place? source mapping)).length +
      (unplaced source mapping suggestions).length = suggestions.length := by
  rw [unplaced_eq, filterMap_place?, List.length_map, Nat.add_comm]
  exact (List.length_eq_length_filter_add _).symm

/-! ## Taking suggestions in -/

def isUnwritable (source : Source) (mapping : Mapping) (suggestion : Suggestion) : Bool :=
  (mapping.location suggestion source).isEmpty && !Numeral.isWritable suggestion.stop

theorem isUnwritable_iff {source : Source} {mapping : Mapping} {s : Suggestion} :
    isUnwritable source mapping s = true ↔ mapping.location s source = [] ∧ ¬ IsWritable s := by
  simp [isUnwritable, IsWritable]

/-- The suggestions up to, and with, the first whose indices have to be written and cannot be. -/
def takenIn (source : Source) (mapping : Mapping) (suggestions : List Suggestion) :
    List Suggestion :=
  suggestions.take (suggestions.findIdx (isUnwritable source mapping) + 1)

theorem takenIn_cons (source : Source) (mapping : Mapping) (s : Suggestion)
    (rest : List Suggestion) :
    takenIn source mapping (s :: rest) =
      s :: if isUnwritable source mapping s then [] else takenIn source mapping rest := by
  cases hs : isUnwritable source mapping s <;> simp [takenIn, List.findIdx_cons, hs]

theorem takenIn_eq_self {source : Source} {mapping : Mapping} {suggestions : List Suggestion}
    (h : ∀ s ∈ suggestions, mapping.location s source = [] → IsWritable s) :
    takenIn source mapping suggestions = suggestions := by
  have hnone : suggestions.findIdx (isUnwritable source mapping) = suggestions.length := by
    refine List.findIdx_eq_length.2 fun s hs => Bool.eq_false_iff.2 fun hlong => ?_
    obtain ⟨hplace, hlong⟩ := isUnwritable_iff.1 hlong
    exact hlong (h s hs hplace)
  rw [takenIn, hnone]
  exact List.take_of_length_le (Nat.le_succ _)

def outcome (source : Source) (mapping : Mapping) (suggestions : List Suggestion) :
    Except Numeral.TooLong Unit :=
  if suggestions.any (isUnwritable source mapping) then .error ⟨none⟩ else .ok ()

theorem outcome_cons (source : Source) (mapping : Mapping) (s : Suggestion)
    (rest : List Suggestion) :
    outcome source mapping (s :: rest) =
      if isUnwritable source mapping s then .error ⟨none⟩ else outcome source mapping rest := by
  cases hs : isUnwritable source mapping s <;> simp [outcome, hs]

theorem outcome_eq_ok {source : Source} {mapping : Mapping} {suggestions : List Suggestion}
    (h : ∀ s ∈ suggestions, mapping.location s source = [] → IsWritable s) :
    outcome source mapping suggestions = .ok () := by
  refine if_neg fun hany => ?_
  obtain ⟨s, hs, hlong⟩ := List.any_eq_true.1 hany
  obtain ⟨hplace, hlong⟩ := isUnwritable_iff.1 hlong
  exact hlong (h s hs hplace)

theorem outcome_eq_error {source : Source} {mapping : Mapping} {suggestions : List Suggestion}
    {s : Suggestion} (hs : s ∈ suggestions) (hplace : mapping.location s source = [])
    (hlong : ¬ IsWritable s) : outcome source mapping suggestions = .error ⟨none⟩ :=
  if_pos (List.any_eq_true.2 ⟨s, hs, isUnwritable_iff.2 ⟨hplace, hlong⟩⟩)

/-- A collector with the diagnostics of more suggestions, and with the others counted. -/
def enlarge (c : Collector) (mapping : Mapping) (suggestions : List Suggestion) : Collector :=
  { c with
    diagnostics := c.diagnostics ++ suggestions.filterMap (Collector.place? c.source mapping)
    dropped := c.dropped + (unplaced c.source mapping suggestions).length }

theorem enlarge_nil (c : Collector) (mapping : Mapping) : enlarge c mapping [] = c := by
  rw [enlarge, List.filterMap_nil, List.append_nil]
  rfl

theorem enlarge_append (c : Collector) (mapping : Mapping) (front back : List Suggestion) :
    enlarge c mapping (front ++ back) = enlarge (enlarge c mapping front) mapping back := by
  simp only [enlarge, List.filterMap_append, unplaced, List.filter_append,
    List.length_append, List.append_assoc, Nat.add_assoc]

/-- Each of the suggestions counts once, dropped or not. -/
theorem dropped_add_length_enlarge (c : Collector) (mapping : Mapping)
    (suggestions : List Suggestion) :
    (enlarge c mapping suggestions).dropped + (enlarge c mapping suggestions).diagnostics.length =
      c.dropped + c.diagnostics.length + suggestions.length := by
  have hcount := length_add_unplaced c.source mapping suggestions
  show c.dropped + (unplaced c.source mapping suggestions).length +
    (c.diagnostics ++ suggestions.filterMap (Collector.place? c.source mapping)).length = _
  rw [List.length_append]
  omega

theorem value_take (c : Collector) (mapping : Mapping) (s : Suggestion) :
    (c.take mapping s).value =
      (if isUnwritable c.source mapping s then .error ⟨none⟩ else .ok (),
        enlarge c mapping [s]) := by
  cases hplace : mapping.location s c.source with
  | nil =>
    have hnone := Collector.place?_eq_none_iff.2 hplace
    have hlarger : enlarge c mapping [s] = c.drop := by
      simp [enlarge, unplaced, hnone, Collector.drop]
    rw [Collector.take, hnone, hlarger]
    by_cases hs : IsWritable s
    · obtain ⟨entry, hentry⟩ := dropNote_eq_ok hs c.source
      rw [if_neg fun hlong => (isUnwritable_iff.1 hlong).2 hs]
      simp only [hentry]
    · rw [if_pos (isUnwritable_iff.2 ⟨hplace, hs⟩)]
      simp only [dropNote_eq_error hs c.source, Logged.value_pure]
  | cons range ranges =>
    have hsome := place?_eq_some hplace
    have hlarger : enlarge c mapping [s] = c.keep (.ofSuggestion s (range :: ranges)) := by
      simp [enlarge, unplaced, hsome, Collector.keep]
    rw [Collector.take, hsome, hlarger, if_neg fun hlong => ?_]
    · rfl
    · rw [(isUnwritable_iff.1 hlong).1] at hplace
      cases hplace

theorem value_takeAll (c : Collector) (mapping : Mapping) (suggestions : List Suggestion) :
    (c.takeAll mapping suggestions).value = (outcome c.source mapping suggestions,
      enlarge c mapping (takenIn c.source mapping suggestions)) := by
  induction suggestions generalizing c with
  | nil =>
    rw [takenIn, List.take_nil, enlarge_nil]
    rfl
  | cons s rest ih =>
    rw [Collector.takeAll, Logged.value_bind, value_take, outcome_cons, takenIn_cons]
    cases isUnwritable c.source mapping s with
    | true => rfl
    | false =>
      have hlarger := enlarge_append c mapping [s] (takenIn c.source mapping rest)
      simp only [Bool.false_eq_true, if_false]
      rw [ih]
      exact congrArg _ hlarger.symm

/-! ## Gathering -/

theorem mem_unplaced_iff {source : Source} {mapping : Mapping} {suggestions : List Suggestion}
    {s : Suggestion} :
    s ∈ unplaced source mapping suggestions ↔
      s ∈ suggestions ∧ mapping.location s source = [] := by
  rw [unplaced_eq, List.mem_filter, List.isEmpty_iff]

theorem value_gather_of_isWritable (collector : Collector) {found : List Suggestion}
    {mapping : Mapping}
    (h : ∀ s ∈ unplaced collector.source mapping found, IsWritable s) :
    (collector.gather found mapping).value = .ok { collector with
      diagnostics := collector.diagnostics ++
        found.filterMap (Collector.place? collector.source mapping)
      dropped := collector.dropped +
        (unplaced collector.source mapping found).length } := by
  have hwritable : ∀ s ∈ found, mapping.location s collector.source = [] → IsWritable s :=
    fun s hs hplace => h s (mem_unplaced_iff.2 ⟨hs, hplace⟩)
  rw [Collector.gather, Logged.value_bind, value_takeAll, takenIn_eq_self hwritable,
    outcome_eq_ok hwritable]
  rfl

theorem value_gather_of_not_isWritable (collector : Collector) {found : List Suggestion}
    {mapping : Mapping} {s : Suggestion}
    (hs : s ∈ unplaced collector.source mapping found) (h : ¬ IsWritable s) :
    (collector.gather found mapping).value = .error ⟨none⟩ := by
  obtain ⟨hfound, hplace⟩ := mem_unplaced_iff.1 hs
  rw [Collector.gather, Logged.value_bind, value_takeAll, outcome_eq_error hfound hplace h]
  rfl

theorem value_gather (collector : Collector) {found : List Suggestion} {mapping : Mapping}
    {size : Nat} (hsize : Numeral.isWritable size = true) (h : ∀ s ∈ found, s.stop ≤ size) :
    (collector.gather found mapping).value = .ok { collector with
      diagnostics := collector.diagnostics ++
        found.filterMap (Collector.place? collector.source mapping)
      dropped := collector.dropped +
        (unplaced collector.source mapping found).length } := by
  apply value_gather_of_isWritable
  intro s hs
  exact isWritable_of_le hsize (h s (List.mem_filter.1 hs).1)

/-! ## The next segment -/

section

variable {σ : Type} [Backend σ] {file : FileId} {fallback : String} {collector : Collector}
  {checker later : σ} {segment : Segment}

theorem checkSegments_cons_of_isBlank (hblank : isBlankText segment.text = true)
    (rest : List Segment) :
    Report.checkSegments file fallback collector checker (segment :: rest) =
      Report.checkSegments file fallback collector checker rest := by
  rw [Report.checkSegments, if_pos hblank]

/-- A segment that is checked and whose suggestions are taken in is behind the run. -/
theorem value_checkSegments_cons {next : Collector} {found : List Suggestion}
    (hblank : isBlankText segment.text = false)
    (hcheck : (Backend.check checker (Config.languageOrDefault segment.language fallback)
      segment.text).value = (.ok found, later))
    (hgather : (collector.gather found segment.mapping).value = .ok next)
    (rest : List Segment) :
    (Report.checkSegments file fallback collector checker (segment :: rest)).value =
      (Report.checkSegments file fallback next later rest).value := by
  rw [Report.checkSegments, hblank]
  simp only [Bool.false_eq_true, if_false, Logged.value_bind, hcheck, hgather]

theorem value_checkSegments_of_fault {fault : Fault} (hblank : isBlankText segment.text = false)
    (hcheck : (Backend.check checker (Config.languageOrDefault segment.language fallback)
      segment.text).value = (.error fault, later))
    (rest : List Segment) :
    (Report.checkSegments file fallback collector checker (segment :: rest)).value =
      (.error (.check fault), later) := by
  rw [Report.checkSegments, hblank]
  simp only [Bool.false_eq_true, if_false, Logged.value_bind, hcheck, Logged.value_pure]

theorem value_checkSegments_of_tooLong {found : List Suggestion} {error : Numeral.TooLong}
    (hblank : isBlankText segment.text = false)
    (hcheck : (Backend.check checker (Config.languageOrDefault segment.language fallback)
      segment.text).value = (.ok found, later))
    (hgather : (collector.gather found segment.mapping).value = .error error)
    (rest : List Segment) :
    (Report.checkSegments file fallback collector checker (segment :: rest)).value =
      (.error (.tooLong error), later) := by
  rw [Report.checkSegments, hblank]
  simp only [Bool.false_eq_true, if_false, Logged.value_bind, hcheck, hgather, Logged.value_pure]

/-- What gathering keeps true of a collector is true behind a run that ends well, whatever the
checks answer. -/
theorem invariant_checkSegments {Inv : Collector → Prop}
    (hkeep : ∀ (c next : Collector) (found : List Suggestion) (mapping : Mapping),
      Inv c → (c.gather found mapping).value = .ok next → Inv next)
    {last : Collector} {ended : σ} {segments : List Segment} (h : Inv collector)
    (hrun : (Report.checkSegments file fallback collector checker segments).value =
      (.ok last, ended)) :
    Inv last := by
  induction segments generalizing collector checker with
  | nil =>
    obtain rfl := Except.ok.inj (Prod.mk.inj hrun).1
    exact h
  | cons segment rest ih =>
    cases hblank : isBlankText segment.text with
    | true =>
      rw [checkSegments_cons_of_isBlank hblank] at hrun
      exact ih h hrun
    | false =>
      obtain ⟨answer, later, hcheck⟩ : ∃ answer later, (Backend.check checker
          (Config.languageOrDefault segment.language fallback) segment.text).value =
            (answer, later) := ⟨_, _, rfl⟩
      cases answer with
      | error fault =>
        rw [value_checkSegments_of_fault hblank hcheck] at hrun
        cases (Prod.mk.inj hrun).1
      | ok found =>
        cases hgather : (collector.gather found segment.mapping).value with
        | error error =>
          rw [value_checkSegments_of_tooLong hblank hcheck hgather] at hrun
          cases (Prod.mk.inj hrun).1
        | ok next =>
          rw [value_checkSegments_cons hblank hcheck hgather] at hrun
          exact ih (hkeep collector next found segment.mapping h hgather) hrun

end

end ProseTrace.Proofs.Report.Gathering
