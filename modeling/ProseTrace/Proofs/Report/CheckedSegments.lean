import Mathlib
import ProseTrace.Checker.Recorder
import ProseTrace.Proofs.Report.Gathering

/-!
# Checking segments with any checker

What a checker answers may depend on all that it was asked before.  Whatever it is, it is asked once
for every segment that is not white space, in order, until a check fails.  If none fails, the report
holds a diagnostic for every suggestion with a place in the source, and counts the others.  There is
one exception: a suggestion without a place is written to the log, and none of more than
`Numeral.maxDigits` digits can be.
-/

namespace ProseTrace.Proofs.Report.CheckedSegments

open ProseTrace.Text ProseTrace.Document ProseTrace.Extract ProseTrace.Finding ProseTrace.Checker
open ProseTrace.Proofs.Report.Gathering

/-! ## Listening to a checker -/

/-- A checker, with what it was asked and what its checks answered. -/
structure Overheard (σ : Type) where
  checker : σ
  calls : List Call
  answers : List (Except Fault (List Suggestion))

namespace Overheard

variable {σ : Type} [Backend σ]

def start (checker : σ) : Overheard σ := ⟨checker, [], []⟩

def check (o : Overheard σ) (language text : String) :
    Logged (Except Fault (List Suggestion) × Overheard σ) :=
  let reply := Backend.check o.checker language text
  ⟨(reply.value.1,
    ⟨reply.value.2, o.calls ++ [.check language text], o.answers ++ [reply.value.1]⟩),
    reply.entries⟩

instance : Backend (Overheard σ) where
  allowWords o language words :=
    ⟨Backend.allowWords o.checker language words, o.calls ++ [.allowWords language words],
      o.answers⟩
  disableChecks o language rules :=
    ⟨Backend.disableChecks o.checker language rules, o.calls ++ [.disableChecks language rules],
      o.answers⟩
  check := check
  close o :=
    let closed := Backend.close o.checker
    ⟨⟨closed.value, o.calls ++ [.close], o.answers⟩, closed.entries⟩

theorem value_check {o : Overheard σ} {language text : String}
    {answer : Except Fault (List Suggestion)} {later : σ}
    (h : (Backend.check o.checker language text).value = (answer, later)) :
    (Backend.check o language text).value =
      (answer, ⟨later, o.calls ++ [.check language text], o.answers ++ [answer]⟩) := by
  show ((Backend.check o.checker language text).value.1, Overheard.mk _ _ _) = _
  rw [h]

theorem value_checkSegments (file : FileId) (fallback : String) (collector : Collector)
    (o : Overheard σ) (segments : List Segment) :
    Prod.map id checker (Report.checkSegments file fallback collector o segments).value =
      (Report.checkSegments file fallback collector o.checker segments).value := by
  induction segments generalizing collector o with
  | nil => rfl
  | cons segment rest ih =>
    cases hblank : isBlankText segment.text with
    | true =>
      rw [checkSegments_cons_of_isBlank hblank, checkSegments_cons_of_isBlank hblank]
      exact ih collector o
    | false =>
      obtain ⟨answer, later, hcheck⟩ : ∃ answer later, (Backend.check o.checker
          (Config.languageOrDefault segment.language fallback) segment.text).value =
            (answer, later) := ⟨_, _, rfl⟩
      cases answer with
      | error fault =>
        rw [value_checkSegments_of_fault hblank hcheck,
          value_checkSegments_of_fault hblank (value_check hcheck)]
        rfl
      | ok found =>
        cases hgather : (collector.gather found segment.mapping).value with
        | error error =>
          rw [value_checkSegments_of_tooLong hblank hcheck hgather,
            value_checkSegments_of_tooLong hblank (value_check hcheck) hgather]
          rfl
        | ok next =>
          rw [value_checkSegments_cons hblank hcheck hgather,
            value_checkSegments_cons hblank (value_check hcheck) hgather]
          exact ih next _

end Overheard

/-! ## What was said -/

/-- A segment that was checked, with what was found. -/
structure Exchange where
  segment : Segment
  found : List Suggestion

namespace Exchange

/-- The suggestions with a place in the source, as diagnostics there. -/
def diagnostics (source : Source) (e : Exchange) : List Diagnostic :=
  (e.found.filter fun s => !(e.segment.mapping.location s source).isEmpty).map fun s =>
    ⟨e.segment.mapping.location s source, s.remark⟩

def strays (source : Source) (e : Exchange) : List Suggestion :=
  e.found.filter fun s => (e.segment.mapping.location s source).isEmpty

theorem filterMap_place? (source : Source) (e : Exchange) :
    e.found.filterMap (Collector.place? source e.segment.mapping) = e.diagnostics source :=
  Gathering.filterMap_place? source e.segment.mapping e.found

theorem unplaced_eq (source : Source) (e : Exchange) :
    unplaced source e.segment.mapping e.found = e.strays source :=
  Gathering.unplaced_eq source e.segment.mapping e.found

theorem length_diagnostics_add (source : Source) (e : Exchange) :
    (e.diagnostics source).length + (e.strays source).length = e.found.length := by
  rw [← filterMap_place?, ← unplaced_eq]
  exact length_add_unplaced source e.segment.mapping e.found

end Exchange

/-- The report holds what was found in these exchanges. -/
structure Holds (source : Source) (exchanges : List Exchange) (report : Report) : Prop where
  source_eq : report.source = source
  diagnostics_eq : report.diagnostics = exchanges.flatMap (Exchange.diagnostics source)
  length_add_dropped : report.diagnostics.length + report.dropped =
    (exchanges.map fun e => e.found.length).sum

/-- How a run over segments ends, behind earlier exchanges: which segments were sent and which were
not, what the checks answered, and the result. -/
inductive Outcome (source : Source) (earlier : List Exchange) :
    List Segment → List Segment → List (Except Fault (List Suggestion)) →
      Except Report.Failure Report → Prop where
  | reported (exchanges : List Exchange) (report : Report)
      (hwritable : ∀ e ∈ exchanges, ∀ s ∈ e.strays source, IsWritable s)
      (hreport : Holds source (earlier ++ exchanges) report) :
      Outcome source earlier (exchanges.map Exchange.segment) []
        (exchanges.map fun e => .ok e.found) (.ok report)
  | failed (exchanges : List Exchange) (segment : Segment) (rest : List Segment) (fault : Fault) :
      Outcome source earlier (exchanges.map Exchange.segment ++ [segment]) rest
        ((exchanges.map fun e => .ok e.found) ++ [.error fault]) (.error (.check fault))
  | unwritable (exchanges : List Exchange) (last : Exchange) (rest : List Segment) (s : Suggestion)
      (hs : s ∈ last.strays source) (hwritable : ¬ IsWritable s) :
      Outcome source earlier (exchanges.map Exchange.segment ++ [last.segment]) rest
        ((exchanges.map fun e => .ok e.found) ++ [.ok last.found]) (.error (.tooLong ⟨none⟩))

theorem Outcome.cons {source : Source} {earlier : List Exchange} {e : Exchange}
    {sent rest : List Segment} {answers : List (Except Fault (List Suggestion))}
    {result : Except Report.Failure Report}
    (hwritable : ∀ s ∈ e.strays source, IsWritable s)
    (h : Outcome source (earlier ++ [e]) sent rest answers result) :
    Outcome source earlier (e.segment :: sent) rest (.ok e.found :: answers) result := by
  cases h with
  | reported exchanges report hrest hreport =>
    rw [List.append_assoc] at hreport
    exact .reported (e :: exchanges) report (List.forall_mem_cons.2 ⟨hwritable, hrest⟩) hreport
  | failed exchanges segment rest fault => exact .failed (e :: exchanges) segment rest fault
  | unwritable exchanges last rest s hs hlong =>
    exact .unwritable (e :: exchanges) last rest s hs hlong

/-! ## The run -/

def isChecked (segment : Segment) : Bool := !isBlankText segment.text

/-- The check of a segment: in its own language, or in the default one if it has none. -/
def request (fallback : String) (segment : Segment) : Call :=
  .check ((segment.language.filter fun name => name ≠ "").getD fallback) segment.text

theorem request_eq (fallback : String) (segment : Segment) :
    request fallback segment =
      .check (Config.languageOrDefault segment.language fallback) segment.text := by
  unfold request Config.languageOrDefault
  cases segment.language with
  | none => rfl
  | some name =>
    by_cases h : name = ""
    · subst h
      rfl
    · simp [Option.filter, h]

/-- What a collector has gathered so far, as a report. -/
def reportOf (collector : Collector) : Report :=
  ⟨collector.source, collector.diagnostics, collector.dropped⟩

section

variable {σ : Type} [Backend σ]

theorem checkSegments_filter (file : FileId) (fallback : String) (collector : Collector)
    (checker : σ) (segments : List Segment) :
    Report.checkSegments file fallback collector checker segments =
      Report.checkSegments file fallback collector checker (segments.filter isChecked) := by
  induction segments generalizing collector checker with
  | nil => rfl
  | cons segment rest ih =>
    cases hblank : isBlankText segment.text with
    | true =>
      rw [checkSegments_cons_of_isBlank hblank,
        List.filter_cons_of_neg (by simp [isChecked, hblank])]
      exact ih collector checker
    | false =>
      rw [List.filter_cons_of_pos (by simp [isChecked, hblank])]
      simp only [Report.checkSegments, ih]

theorem exists_gather_holds {source : Source} {earlier : List Exchange} {collector : Collector}
    (hholds : Holds source earlier (reportOf collector)) {e : Exchange}
    (hwritable : ∀ s ∈ e.strays source, IsWritable s) :
    ∃ next, (collector.gather e.found e.segment.mapping).value = .ok next ∧
      Holds source (earlier ++ [e]) (reportOf next) := by
  have hsource : collector.source = source := hholds.source_eq
  have hcount := e.length_diagnostics_add source
  have htotal := hholds.length_add_dropped
  refine ⟨_, value_gather_of_isWritable collector ?_, hsource, ?_, ?_⟩
  · rw [hsource, Exchange.unplaced_eq]
    exact hwritable
  · simp only [reportOf, hsource, Exchange.filterMap_place?, List.flatMap_append,
      List.flatMap_singleton]
    rw [← hholds.diagnostics_eq]
    rfl
  · simp only [reportOf] at htotal
    simp only [reportOf, hsource, Exchange.filterMap_place?, Exchange.unplaced_eq,
      List.length_append, List.map_append, List.sum_append, List.map_cons, List.map_nil,
      List.sum_cons, List.sum_nil]
    omega

/-- From a collector that holds the earlier exchanges, segments that are not blank are sent one
after the other until a check or the log fails. -/
theorem exists_outcome {source : Source} (file : FileId) (fallback : String)
    {asked : List Segment} (hasked : ∀ s ∈ asked, isBlankText s.text = false)
    {collector : Collector} {earlier : List Exchange}
    (hholds : Holds source earlier (reportOf collector)) (o : Overheard σ) :
    ∃ sent rest answers result ended,
      (Report.checkSegments file fallback collector o asked).value = (result, ended) ∧
      asked = sent ++ rest ∧
      ended.calls = o.calls ++ sent.map (request fallback) ∧
      ended.answers = o.answers ++ answers ∧
      Outcome source earlier sent rest answers (result.map reportOf) := by
  induction asked generalizing collector earlier o with
  | nil =>
    refine ⟨[], [], [], .ok collector, o, rfl, rfl, ?_, ?_, ?_⟩
    · rw [List.map_nil, List.append_nil]
    · rw [List.append_nil]
    · exact .reported [] (reportOf collector) nofun (by rwa [List.append_nil])
  | cons segment rest ih =>
    obtain ⟨hblank, hrest⟩ := List.forall_mem_cons.1 hasked
    obtain ⟨answer, later, hcheck⟩ : ∃ answer later, (Backend.check o.checker
        (Config.languageOrDefault segment.language fallback) segment.text).value =
          (answer, later) := ⟨_, _, rfl⟩
    have hheard := Overheard.value_check hcheck
    rw [← request_eq] at hheard
    cases answer with
    | error fault =>
      exact ⟨[segment], rest, [.error fault], _, _, value_checkSegments_of_fault hblank hheard rest,
        rfl, rfl, rfl, .failed [] segment rest fault⟩
    | ok found =>
      by_cases hwritable : ∀ s ∈ (Exchange.mk segment found).strays source, IsWritable s
      · obtain ⟨next, hgather, hnext⟩ := exists_gather_holds hholds hwritable
        obtain ⟨sent, left, answers, result, ended, hrun, hsent, hcalls, hanswers, houtcome⟩ :=
          ih hrest hnext ⟨later, _, _⟩
        refine ⟨segment :: sent, left, .ok found :: answers, result, ended, ?_, ?_, ?_, ?_,
          houtcome.cons hwritable⟩
        · rw [value_checkSegments_cons hblank hheard hgather, hrun]
        · rw [hsent, List.cons_append]
        · rw [hcalls, List.append_assoc]
          rfl
        · rw [hanswers, List.append_assoc]
          rfl
      · simp only [not_forall] at hwritable
        obtain ⟨s, hs, hlong⟩ := hwritable
        have hsource : collector.source = source := hholds.source_eq
        have hgather : (collector.gather found segment.mapping).value = .error ⟨none⟩ := by
          refine value_gather_of_not_isWritable collector ?_ hlong
          rw [hsource]
          rwa [← Exchange.unplaced_eq] at hs
        exact ⟨[segment], rest, [.ok found], _, _,
          value_checkSegments_of_tooLong hblank hheard hgather rest, rfl, rfl, rfl,
          .unwritable [] ⟨segment, found⟩ rest s hs hlong⟩

/-! ## The report -/

theorem start_eq_ok {world : World} {file : FileId} {source : Source}
    (h : world.source file = .ok source) :
    Collector.start file world = .ok ⟨source, [], 0, false⟩ := by
  rw [Collector.start, h]
  rfl

theorem value_ofFile_of_error {world : World} {file : FileId} {error : LookupError}
    (h : world.source file = .error error) (segments : List Segment)
    (options : Config.CheckOptions) (checker : σ) :
    (Report.ofFile world file segments options checker).value =
      (.error (.lookup error), checker) := by
  have hstart : Collector.start file world = .error error := by
    rw [Collector.start, h]
    rfl
  rw [Report.ofFile, hstart]
  rfl

theorem value_ofFile_of_ok {world : World} {file : FileId} {source : Source}
    (h : world.source file = .ok source) (segments : List Segment)
    (options : Config.CheckOptions) (checker : σ) :
    (Report.ofFile world file segments options checker).value =
      Prod.map (Except.map reportOf) id
        (Report.checkSegments file options.language ⟨source, [], 0, false⟩ checker
          segments).value := by
  rw [Report.ofFile, start_eq_ok h]
  simp only [Logged.value_bind]
  rcases (Report.checkSegments file options.language ⟨source, [], 0, false⟩ checker segments).value
    with ⟨result, ended⟩
  cases result with
  | ok collector => rfl
  | error failure => rfl

/-- The run over a file with a checker that is listened to. -/
def overhear (world : World) (file : FileId) (segments : List Segment)
    (options : Config.CheckOptions) (checker : σ) : Except Report.Failure Report × Overheard σ :=
  (Report.ofFile world file segments options (Overheard.start checker)).value

/-- A file that the world does not have is reported before any call.  Otherwise the checker is asked
once for every segment that is not blank, in order, until a check fails, which is the result then.
If none fails there is a report, unless a suggestion without a place cannot be written to the log:
its diagnostics are those of the suggestions with a place, in order, and it counts the others.
Blank segments make no difference. -/
theorem overhear_outcome (world : World) (file : FileId) (segments : List Segment)
    (options : Config.CheckOptions) (checker : σ) :
    Prod.map id Overheard.checker (overhear world file segments options checker) =
      (Report.ofFile world file segments options checker).value ∧
    (∀ error, world.source file = .error error →
      overhear world file segments options checker =
        (.error (.lookup error), Overheard.start checker)) ∧
    (∀ source, world.source file = .ok source → ∃ sent rest,
      segments.filter isChecked = sent ++ rest ∧
      (overhear world file segments options checker).2.calls =
        sent.map (request options.language) ∧
      Outcome source [] sent rest (overhear world file segments options checker).2.answers
        (overhear world file segments options checker).1) ∧
    (∀ others : List Segment, others.filter isChecked = segments.filter isChecked →
      Report.ofFile world file others options checker =
        Report.ofFile world file segments options checker) := by
  refine ⟨?_, fun error h => value_ofFile_of_error h segments options _, ?_, ?_⟩
  · unfold overhear
    cases hsource : world.source file with
    | error error =>
      rw [value_ofFile_of_error hsource, value_ofFile_of_error hsource]
      rfl
    | ok source =>
      rw [value_ofFile_of_ok hsource, value_ofFile_of_ok hsource]
      have hsame := Overheard.value_checkSegments file options.language ⟨source, [], 0, false⟩
        (Overheard.start checker) segments
      rw [show (Overheard.start checker).checker = checker from rfl] at hsame
      rw [← hsame]
      rfl
  · intro source hsource
    have hasked : ∀ s ∈ segments.filter isChecked, isBlankText s.text = false := by
      intro s hs
      have hchecked := (List.mem_filter.1 hs).2
      rwa [isChecked, Bool.not_eq_true'] at hchecked
    have hempty : Holds source [] (reportOf ⟨source, [], 0, false⟩) := ⟨rfl, rfl, rfl⟩
    obtain ⟨sent, rest, answers, result, ended, hrun, hsent, hcalls, hanswers, houtcome⟩ :=
      exists_outcome file options.language hasked hempty (Overheard.start checker)
    rw [← checkSegments_filter] at hrun
    unfold overhear
    rw [value_ofFile_of_ok hsource, hrun]
    refine ⟨sent, rest, hsent, hcalls, ?_⟩
    show Outcome source [] sent rest ended.answers _
    rw [hanswers]
    exact houtcome
  · intro others h
    unfold Report.ofFile
    cases Collector.start file world with
    | error error => rfl
    | ok collector =>
      simp only
      rw [checkSegments_filter file options.language collector checker others, h,
        ← checkSegments_filter]

end

/-! ## An index too long to write -/

/-- A suggestion far behind the text, whose end has one digit more than can be written. -/
def farSuggestion : Suggestion where
  start := 10 ^ Numeral.maxDigits - 1
  stop := 10 ^ Numeral.maxDigits
  remark := ⟨.text "m", [], .text "", .text ""⟩
  start_le_stop := Nat.sub_le _ _

def plainSegment : Segment :=
  ⟨"abc", ⟨[some ⟨"f", ⟨0, 1, Nat.le_succ 0⟩⟩, some ⟨"f", ⟨1, 2, Nat.le_succ 1⟩⟩,
    some ⟨"f", ⟨2, 3, Nat.le_succ 2⟩⟩]⟩, none⟩

/-- The only check finds one suggestion without a place, and there is no report. -/
theorem ofFile_refuses_farSuggestion :
    (Report.ofFile (World.ofTexts [("f", "abc")]) "f" [plainSegment] ⟨"en-US", [], []⟩
        (Recorder.start [.ok [farSuggestion]])).value =
      (.error (.tooLong ⟨none⟩), ⟨[], [.check "en-US" "abc"]⟩) := by
  have hlong : ¬ IsWritable farSuggestion := by
    unfold IsWritable
    decide +kernel
  have hstray : farSuggestion ∈ unplaced ⟨"f", "abc"⟩ plainSegment.mapping
      [farSuggestion] := by
    refine List.mem_filter.2 ⟨List.mem_singleton_self _, ?_⟩
    decide +kernel
  have hgather := value_gather_of_not_isWritable ⟨⟨"f", "abc"⟩, [], 0, false⟩ hstray hlong
  have hcheck : (Backend.check (Recorder.start [.ok [farSuggestion]])
      (Config.languageOrDefault plainSegment.language "en-US") plainSegment.text).value =
        (.ok [farSuggestion], ⟨[], [.check "en-US" "abc"]⟩) := rfl
  have hblank : isBlankText plainSegment.text = false := by decide +kernel
  rw [value_ofFile_of_ok rfl, value_checkSegments_of_tooLong hblank hcheck hgather []]
  rfl

end ProseTrace.Proofs.Report.CheckedSegments
