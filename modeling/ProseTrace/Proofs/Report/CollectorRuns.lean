import ProseTrace.Proofs.Extract.RangeMerging
import ProseTrace.Proofs.Report.CheckedSegments

/-!
# Collecting over whole runs

A collector is asked to take in suggestions, and to finish.  Until it finishes it holds the
diagnostics of the suggestions that it took in, in order, and counts the others; then it hands over
what it holds and takes nothing more.

A request takes in all its suggestions, with one exception: a suggestion without a place is written
to the log when it is dropped.  If that fails, what was taken in stays and the rest is lost.
-/

namespace ProseTrace.Proofs.Report.CollectorRuns

open ProseTrace.Text ProseTrace.Document ProseTrace.Extract ProseTrace.Finding
open ProseTrace.Proofs.Extract.RangeMerging
open ProseTrace.Proofs.Report.Gathering ProseTrace.Proofs.Report.CheckedSegments

/-! ## Requests -/

/-- Suggestions on one segment, to be taken in. -/
structure Addition where
  suggestions : List Suggestion
  mapping : Mapping

inductive Request where
  | add (addition : Addition)
  | finish

inductive Answer where
  | added (outcome : Except Collector.AddError Unit)
  | finished (outcome : Except Collector.AlreadyFinished (Source × List Diagnostic))

def turn (c : Collector) : Request → Answer × Collector
  | .add a =>
    let added := (c.add a.suggestions a.mapping).value
    (.added added.1, added.2)
  | .finish =>
    match c.finish with
    | .ok (found, next) => (.finished (.ok found), next)
    | .error error => (.finished (.error error), c)

def run (c : Collector) : List Request → List Answer × Collector
  | [] => ([], c)
  | request :: rest =>
    ((turn c request).1 :: (run (turn c request).2 rest).1, (run (turn c request).2 rest).2)

theorem run_append (c : Collector) (front back : List Request) :
    run c (front ++ back) =
      ((run c front).1 ++ (run (run c front).2 back).1, (run (run c front).2 back).2) := by
  induction front generalizing c with
  | nil => rfl
  | cons request rest ih => rw [List.cons_append, run, ih]; rfl

/-! ## What is taken in -/

namespace Addition

def taken (source : Source) (a : Addition) : List Suggestion :=
  takenIn source a.mapping a.suggestions

/-- Those with a place in the source, as diagnostics there. -/
def images (source : Source) (a : Addition) : List Diagnostic :=
  ((a.taken source).filter fun s => !(a.mapping.location s source).isEmpty).map fun s =>
    .ofSuggestion s (a.mapping.location s source)

def answer (source : Source) (a : Addition) : Answer :=
  .added ((outcome source a.mapping a.suggestions).mapError .tooLong)

theorem mem_images {source : Source} {a : Addition} {d : Diagnostic} (h : d ∈ a.images source) :
    d.locations ≠ [] ∧ ∀ r ∈ d.locations, source.admits r = true := by
  obtain ⟨s, hs, rfl⟩ := List.mem_map.1 h
  have hplace : a.mapping.location s source ≠ [] := by simpa using (List.mem_filter.1 hs).2
  exact ⟨hplace, admits_of_mem_location⟩

end Addition

/-- The collector is open and holds what these additions took in. -/
structure Holds (source : Source) (additions : List Addition) (c : Collector) : Prop where
  source_eq : c.source = source
  finished_eq : c.finished = false
  diagnostics_eq : c.diagnostics = additions.flatMap (Addition.images source)
  dropped_add_length : c.dropped + c.diagnostics.length =
    (additions.map fun a => (a.taken source).length).sum

section

variable {source : Source} {additions : List Addition} {c : Collector}

theorem turn_add (h : c.finished = false) (a : Addition) :
    turn c (.add a) = (a.answer c.source, enlarge c a.mapping (a.taken c.source)) := by
  have hadd : (c.add a.suggestions a.mapping).value =
      ((outcome c.source a.mapping a.suggestions).mapError .tooLong,
        enlarge c a.mapping (a.taken c.source)) := by
    rw [Collector.add, h]
    exact congrArg (Prod.map (Except.mapError Collector.AddError.tooLong) id)
      (value_takeAll c a.mapping a.suggestions)
  rw [turn, hadd]
  rfl

/-- An addition is answered, and what it took in is held from then on. -/
theorem Holds.turn_add (h : Holds source additions c) (a : Addition) :
    (turn c (.add a)).1 = a.answer source ∧
      Holds source (additions ++ [a]) (turn c (.add a)).2 := by
  have himages := filterMap_place? source a.mapping (a.taken source)
  have hcount := dropped_add_length_enlarge c a.mapping (a.taken source)
  rw [CollectorRuns.turn_add h.finished_eq, h.source_eq]
  refine ⟨rfl, h.source_eq, h.finished_eq, ?_, ?_⟩
  · rw [enlarge, h.source_eq, h.diagnostics_eq, List.flatMap_append, List.flatMap_singleton,
      himages]
    rfl
  · rw [hcount, h.dropped_add_length, List.map_append, List.sum_append, List.map_singleton,
      List.sum_singleton]

theorem Holds.run_additions (h : Holds source additions c) (more : List Addition) :
    (run c (more.map .add)).1 = more.map (Addition.answer source) ∧
      Holds source (additions ++ more) (run c (more.map .add)).2 := by
  induction more generalizing additions c with
  | nil => exact ⟨rfl, by rwa [List.append_nil]⟩
  | cons a rest ih =>
    obtain ⟨hanswer, hlater⟩ := h.turn_add a
    obtain ⟨hanswers, hheld⟩ := ih hlater
    rw [List.append_assoc] at hheld
    exact ⟨congrArg₂ List.cons hanswer hanswers, hheld⟩

end

/-! ## After the end -/

def refusal : Request → Answer
  | .add _ => .added (.error (.finished {}))
  | .finish => .finished (.error {})

theorem turn_of_finished {c : Collector} (h : c.finished = true) (request : Request) :
    turn c request = (refusal request, c) := by
  cases request with
  | add a =>
    rw [turn, Collector.add, h]
    rfl
  | finish =>
    rw [turn, Collector.finish, h]
    rfl

theorem run_of_finished {c : Collector} (h : c.finished = true) (requests : List Request) :
    run c requests = (requests.map refusal, c) := by
  induction requests with
  | nil => rfl
  | cons request rest ih => rw [run, turn_of_finished h, ih]; rfl

/-- The first request to finish hands over what is held; it is the last one that does anything. -/
theorem run_finish {c : Collector} (h : c.finished = false) (later : List Request) :
    run c (.finish :: later) =
      (.finished (.ok (c.source, c.diagnostics)) :: later.map refusal,
        ⟨c.source, c.diagnostics, c.dropped, true⟩) := by
  have hturn : turn c .finish = (.finished (.ok (c.source, c.diagnostics)),
      ⟨c.source, c.diagnostics, c.dropped, true⟩) := by
    rw [turn, Collector.finish, h]
    rfl
  rw [run, hturn, run_of_finished rfl]

/-! ## Runs -/

/-- A collector of a known file, behind any additions, has answered each of them, and holds
diagnostics in order, each with a place in the source; with the dropped suggestions they are as many
as were taken in.  The first request to finish hands over the world's source and these diagnostics.
Whatever is asked later is refused, and the collector stays as it is. -/
theorem run_collector (world : World) (file : FileId) (additions : List Addition)
    (later : List Request) :
    match Collector.start file world with
    | .error error => world.source file = .error error
    | .ok start => ∃ source, world.source file = .ok source ∧
        ∃ c, run start (additions.map .add) = (additions.map (Addition.answer source), c) ∧
          Holds source additions c ∧
          (∀ d ∈ c.diagnostics, d.locations ≠ [] ∧ ∀ r ∈ d.locations, source.admits r = true) ∧
          run start (additions.map .add ++ .finish :: later) =
            (additions.map (Addition.answer source) ++
                .finished (.ok (source, c.diagnostics)) :: later.map refusal,
              ⟨source, c.diagnostics, c.dropped, true⟩) := by
  rw [Collector.start]
  cases hsource : world.source file with
  | error error => rfl
  | ok source =>
    have hfresh : Holds source [] ⟨source, [], 0, false⟩ := ⟨rfl, rfl, rfl, rfl⟩
    obtain ⟨hanswers, hheld⟩ := hfresh.run_additions additions
    refine ⟨source, rfl, _, Prod.ext hanswers rfl, hheld, ?_, ?_⟩
    · rw [hheld.diagnostics_eq]
      intro d hd
      obtain ⟨a, _, hd⟩ := List.mem_flatMap.1 hd
      exact Addition.mem_images hd
    · rw [run_append, run_finish hheld.finished_eq, hheld.source_eq, hanswers]

/-! ## A suggestion lost -/

def textSuggestion : Suggestion :=
  { farSuggestion with start := 0, stop := 3, start_le_stop := Nat.zero_le 3 }

/-- Of two suggestions the first cannot be logged, and the second is lost with its place. -/
theorem run_loses_textSuggestion :
    plainSegment.mapping.location textSuggestion ⟨"f", "abc"⟩ = [⟨0, 3, Nat.zero_le 3⟩] ∧
      ∃ start, Collector.start "f" (World.ofTexts [("f", "abc")]) = .ok start ∧
        run start [.add ⟨[farSuggestion, textSuggestion], plainSegment.mapping⟩, .finish] =
          ([.added (.error (.tooLong ⟨none⟩)), .finished (.ok (⟨"f", "abc"⟩, []))],
            ⟨⟨"f", "abc"⟩, [], 1, true⟩) := by
  have hfar : isUnwritable ⟨"f", "abc"⟩ plainSegment.mapping farSuggestion = true := by
    decide +kernel
  have hnone : plainSegment.mapping.location farSuggestion ⟨"f", "abc"⟩ = [] :=
    (isUnwritable_iff.1 hfar).1
  refine ⟨by decide +kernel, _, rfl, ?_⟩
  have hturn : turn ⟨⟨"f", "abc"⟩, [], 0, false⟩
      (.add ⟨[farSuggestion, textSuggestion], plainSegment.mapping⟩) =
        (.added (.error (.tooLong ⟨none⟩)), ⟨⟨"f", "abc"⟩, [], 1, false⟩) := by
    rw [turn_add rfl, Addition.answer, Addition.taken, outcome_cons, takenIn_cons, if_pos hfar,
      if_pos hfar]
    simp [enlarge, unplaced, Collector.place?_eq_none_iff.2 hnone, Except.mapError]
  rw [run, hturn, run_finish rfl]
  rfl

end ProseTrace.Proofs.Report.CollectorRuns
