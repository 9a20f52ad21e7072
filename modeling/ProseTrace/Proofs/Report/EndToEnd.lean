import Mathlib
import ProseTrace.Proofs.Checker.MatchReading
import ProseTrace.Proofs.Extract.Extraction
import ProseTrace.Proofs.Report.Gathering

/-!
# From a server's answers to the bytes of a file

The segments of a file are extracted from its source, each is checked by a server, and each
suggestion of the server's answers is taken back to the source.  A suggestion marks characters of a
segment: it becomes a diagnostic that reads the copied ones of them, or is dropped if there are
none.
-/

namespace ProseTrace.Proofs.Report.EndToEnd

open ProseTrace.Text ProseTrace.Document ProseTrace.Extract ProseTrace.Finding ProseTrace.Checker
open ProseTrace.Proofs.Document.SourceCuts ProseTrace.Proofs.Extract.RangeMerging
open ProseTrace.Proofs.Extract.Extraction ProseTrace.Proofs.Checker.MatchReading
open ProseTrace.Proofs.Report.Gathering

/-! ## Passages -/

/-- A passage of a file: the parts that its segment is built of, and the reply to its check with the
suggestions that the reply describes. -/
structure Passage where
  parts : List Part
  language : Option String
  reply : Reply
  found : List Suggestion

namespace Passage

def characters (source : Source) (p : Passage) : List Traced := tracedAll source p.parts

def text (source : Source) (p : Passage) : String :=
  String.ofList ((p.characters source).map Traced.char)

def segment (source : Source) (p : Passage) : Except Source.AddressError Segment := do
  return ((← pushParts source Builder.empty p.parts).finish p.language).1

def isChecked (source : Source) (p : Passage) : Bool := !isBlankText (p.text source)

/-- The parts copy valid ranges of the source in its order, the size of the text can be written, and
a check of the text is answered. -/
structure IsServed (maxDepth : Nat) (source : Source) (p : Passage) : Prop where
  valid : ∀ r ∈ copiedRanges p.parts, source.admits r = true
  ascending : (copiedRanges p.parts).IsChain fun a b => a.stop ≤ b.start
  -- No text that a machine holds is so long; the indices of what is dropped are written to the log.
  writable : Numeral.isWritable (p.text source).length = true
  answered : p.isChecked source = true →
    IsAnswer maxDepth (p.text source).toList p.reply p.found

/-- What the reply says, each with the characters that it marks. -/
def findings (source : Source) (p : Passage) : List (Remark × List Traced) :=
  p.found.map fun suggestion => (suggestion.remark, suggestion.marked (p.characters source))

/-- The segment with the passage's text, and where its characters are from. -/
def made (source : Source) (p : Passage) : Segment :=
  ⟨p.text source, mappingOf source (p.characters source), p.language⟩

theorem segment_eq_made {maxDepth : Nat} {source : Source} {p : Passage}
    (h : p.IsServed maxDepth source) :
    p.segment source = .ok (p.made source) := by
  rw [segment, pushParts_eq Builder.empty h.valid]
  show Except.ok (Builder.finish _ _).1 = _
  simp only [Builder.finish, Builder.empty, String.empty_append, List.nil_append]
  rfl

theorem mapM_segment_eq_made {maxDepth : Nat} {source : Source} {passages : List Passage}
    (h : ∀ p ∈ passages, p.IsServed maxDepth source) :
    passages.mapM (segment source) = .ok (passages.map (made source)) := by
  apply mapM_eq_ok_of_forall₂
  rw [List.forall₂_map_right_iff, List.forall₂_same]
  exact fun p hp => segment_eq_made (h p hp)

end Passage

/-- The findings on all passages that are checked, in order. -/
def allFindings (source : Source) (passages : List Passage) : List (Remark × List Traced) :=
  (passages.filter (Passage.isChecked source)).flatMap (Passage.findings source)

def hasCopied (characters : List Traced) : Bool := characters.any fun t => t.origin.isSome

/-- What a diagnostic says, and what the source reads at its locations. -/
def reading (source : Source) (d : Diagnostic) : Remark × Except Source.AddressError String :=
  (d.remark, sliceAll source d.locations)

/-- The readings that findings lead to: those with a copied character, of the copied characters. -/
def readings (findings : List (Remark × List Traced)) :
    List (Remark × Except Source.AddressError String) :=
  (findings.filter fun f => hasCopied f.2).map fun f => (f.1, .ok (copiedText f.2))

def countWithout (findings : List (Remark × List Traced)) : Nat :=
  findings.countP fun f => !hasCopied f.2

/-! ## One passage -/

theorem hasCopied_eq_false_iff {characters : List Traced} :
    hasCopied characters = false ↔ ∀ t ∈ characters, t.origin = none := by
  simp [hasCopied]

section

variable {source : Source} {characters : List Traced}

theorem place?_eq_none (htrue : ∀ t ∈ characters, IsTrue source t) {suggestion : Suggestion}
    (h : hasCopied (suggestion.marked characters) = false) :
    Collector.place? source (mappingOf source characters) suggestion = none := by
  rw [Collector.place?_eq_none_iff, location_mappingOf_eq_nil_iff htrue]
  exact hasCopied_eq_false_iff.1 h

theorem place?_eq_some (htrue : ∀ t ∈ characters, IsTrue source t) {suggestion : Suggestion}
    (h : hasCopied (suggestion.marked characters) = true) :
    Collector.place? source (mappingOf source characters) suggestion =
      some ⟨(mappingOf source characters).location suggestion source, suggestion.remark⟩ := by
  unfold Collector.place?
  split
  next hnil =>
    have hnone := hasCopied_eq_false_iff.2 ((location_mappingOf_eq_nil_iff htrue suggestion).1 hnil)
    rw [h] at hnone
    cases hnone
  next => rfl

/-- The suggestions with a place are those that mark a copied character, and their diagnostics read
the copied characters. -/
theorem map_reading_placed (htrue : ∀ t ∈ characters, IsTrue source t)
    (horder : InOrder (origins characters)) (found : List Suggestion) :
    (found.filterMap (Collector.place? source (mappingOf source characters))).map
        (reading source) =
      readings (found.map fun s => (s.remark, s.marked characters)) := by
  induction found with
  | nil => rfl
  | cons suggestion rest ih =>
    rw [readings] at ih ⊢
    cases hcopied : hasCopied (suggestion.marked characters) with
    | false =>
      rw [List.filterMap_cons_none (place?_eq_none htrue hcopied), List.map_cons,
        List.filter_cons_of_neg (by simp [hcopied]), ih]
    | true =>
      rw [List.filterMap_cons_some (place?_eq_some htrue hcopied), List.map_cons, List.map_cons,
        List.filter_cons_of_pos (by simp [hcopied]), List.map_cons, ih, reading,
        (location_mappingOf htrue horder suggestion).2]

theorem length_unplaced (htrue : ∀ t ∈ characters, IsTrue source t) (found : List Suggestion) :
    (unplaced source (mappingOf source characters) found).length =
      countWithout (found.map fun s => (s.remark, s.marked characters)) := by
  unfold unplaced countWithout
  rw [← List.countP_eq_length_filter, List.countP_map]
  apply List.countP_congr
  intro suggestion _
  cases hcopied : hasCopied (suggestion.marked characters) with
  | false => simp [place?_eq_none htrue hcopied, hcopied]
  | true => simp [place?_eq_some htrue hcopied, hcopied]

end

/-! ## Gathering -/

/-- The collector holds exactly what these findings lead to. -/
structure Holds (source : Source) (collector : Collector) (findings : List (Remark × List Traced)) :
    Prop where
  source_eq : collector.source = source
  diagnostics_eq : collector.diagnostics.map (reading source) = readings findings
  dropped_eq : collector.dropped = countWithout findings

theorem exists_gather {source : Source} {collector : Collector}
    {earlier : List (Remark × List Traced)} (hholds : Holds source collector earlier) {p : Passage}
    {maxDepth : Nat} (hserved : p.IsServed maxDepth source) (hchecked : p.isChecked source = true) :
    ∃ next, (collector.gather p.found (p.made source).mapping).value = .ok next ∧
      Holds source next (earlier ++ p.findings source) := by
  have htrue := isTrue_of_mem_tracedAll hserved.valid
  have horder := inOrder_origins hserved.valid (inOrder_of_isChain hserved.ascending)
  have hstop := stop_le_of_isAnswer (hserved.answered hchecked)
  refine ⟨_, value_gather collector hserved.writable hstop, hholds.source_eq, ?_, ?_⟩
  · rw [hholds.source_eq, List.map_append, hholds.diagnostics_eq, Passage.made, Passage.characters,
      map_reading_placed htrue horder p.found, readings, readings, readings, List.filter_append,
      List.map_append]
    rfl
  · rw [hholds.source_eq, hholds.dropped_eq, Passage.made, Passage.characters,
      length_unplaced htrue p.found, countWithout, countWithout, countWithout, List.countP_append]
    rfl

/-! ## All passages -/

/-- From a collector that holds the earlier findings the run leads to one that also holds those on
the passages. -/
theorem exists_checkSegments {source : Source} (file : FileId) (fallback : String)
    {later : List Reply} {passages : List Passage} {session : Session}
    (hserved : ∀ p ∈ passages, p.IsServed session.remote.maxDepth source)
    {collector : Collector} {earlier : List (Remark × List Traced)}
    (hholds : Holds source collector earlier)
    (hopen : session.remote.connection.isUsable = true)
    (hwords : AllowsNothing session.remote.settings)
    (hreplies : session.replies =
      (passages.filter (Passage.isChecked source)).map Passage.reply ++ later) :
    ∃ next ended, (Report.checkSegments file fallback collector session
        (passages.map (Passage.made source))).value = (.ok next, ended) ∧
      Holds source next (earlier ++ allFindings source passages) := by
  -- Each passage that is checked uses up a reply and adds to what the collector holds.
  induction passages generalizing collector earlier session with
  | nil =>
    refine ⟨collector, session, rfl, ?_⟩
    rw [allFindings, List.filter_nil, List.flatMap_nil, List.append_nil]
    exact hholds
  | cons p rest ih =>
    obtain ⟨hp, hrest⟩ := List.forall_mem_cons.1 hserved
    rw [List.map_cons]
    cases hchecked : p.isChecked source with
    | false =>
      have hblank : isBlankText (p.made source).text = true := by
        rwa [Passage.isChecked, Bool.not_eq_false'] at hchecked
      rw [List.filter_cons_of_neg (by simp [hchecked])] at hreplies
      rw [checkSegments_cons_of_isBlank hblank, allFindings,
        List.filter_cons_of_neg (by simp [hchecked])]
      exact ih hrest hholds hopen hwords hreplies
    | true =>
      have hblank : isBlankText (p.made source).text = false := by
        rwa [Passage.isChecked, Bool.not_eq_true'] at hchecked
      rw [List.filter_cons_of_pos hchecked, List.map_cons, List.cons_append] at hreplies
      obtain ⟨sent, hcheck⟩ := value_check hopen hwords hreplies (hp.answered hchecked)
      obtain ⟨taken, hgather, htaken⟩ := exists_gather hholds hp hchecked
      rw [value_checkSegments_cons hblank hcheck hgather, allFindings,
        List.filter_cons_of_pos hchecked, List.flatMap_cons, ← List.append_assoc]
      exact @ih ⟨session.remote, _, sent⟩ hrest _ _ htaken hopen hwords rfl

/-- Of a file whose segments are extracted from its source and whose checks are all answered there
is a report.  Its diagnostics are those of the suggestions that mark a copied character, in the
order of the segments and of each answer; the source reads the copied characters at their
locations.  The other suggestions are dropped. -/
theorem ofFile_reads_findings (world : World) (file : FileId) (source : Source)
    (options : Config.CheckOptions) (passages : List Passage) (session : Session)
    (later : List Reply) (hsource : world.source file = .ok source)
    (hserved : ∀ p ∈ passages, p.IsServed session.remote.maxDepth source)
    (hopen : session.remote.connection.isUsable = true)
    (hwords : AllowsNothing session.remote.settings)
    (hreplies : session.replies =
      (passages.filter (Passage.isChecked source)).map Passage.reply ++ later) :
    ∃ segments, passages.mapM (Passage.segment source) = .ok segments ∧
      segments.map Segment.text = passages.map (Passage.text source) ∧
      ∃ report, (Report.ofFile world file segments options session).value.1 = .ok report ∧
        report.source = source ∧
        report.diagnostics.map (reading source) = readings (allFindings source passages) ∧
        report.dropped = countWithout (allFindings source passages) := by
  have hstart : Collector.start file world = .ok ⟨source, [], 0, false⟩ := by
    unfold Collector.start
    rw [hsource]
    rfl
  have hempty : Holds source ⟨source, [], 0, false⟩ [] := ⟨rfl, rfl, rfl⟩
  obtain ⟨last, ended, hrun, hlast⟩ :=
    exists_checkSegments file options.language hserved hempty hopen hwords hreplies
  refine ⟨_, Passage.mapM_segment_eq_made hserved, by rw [List.map_map]; rfl,
    ⟨last.source, last.diagnostics, last.dropped⟩, ?_,
    hlast.source_eq, hlast.diagnostics_eq, hlast.dropped_eq⟩
  unfold Report.ofFile
  rw [hstart]
  simp only [Logged.value_bind, hrun, Logged.value_pure]

/-- A letter with markup around a character that takes two units. -/
def letter : Source := ⟨"letter", "a *😀* b"⟩

def letterAnswer : String :=
  "\x7b\"matches\":[" ++
    "\x7b\"offset\":1,\"length\":4,\"message\":\"odd\"\x7d," ++
    "\x7b\"offset\":4,\"length\":1,\"message\":\"loud\"\x7d]\x7d"

def letterReply : Reply := .response 200 (letterAnswer.toList.map fun c => UInt8.ofNat c.toNat)

def letterRemark (message : String) : Remark := ⟨.text message, [], .text "", .text ""⟩

def letterPassage : Passage where
  parts := [.copied ⟨0, 2, by decide⟩, .copied ⟨3, 7, by decide⟩, .added "!",
    .copied ⟨8, 10, by decide⟩]
  language := none
  reply := letterReply
  found := [⟨1, 4, letterRemark "odd", by decide⟩, ⟨3, 4, letterRemark "loud", by decide⟩]

def letterPayload : Json :=
  .object [("matches", .list [
    .object [("offset", .integer 1), ("length", .integer 4), ("message", .text "odd")],
    .object [("offset", .integer 4), ("length", .integer 1), ("message", .text "loud")]])]

theorem isAnswer_letterReply :
    IsAnswer 1000 (letterPassage.text letter).toList letterReply letterPassage.found := by
  have htext : (letterPassage.text letter).toList = "a 😀! b".toList := by decide +kernel
  have hbody : Json.ofBytes 1000 (letterAnswer.toList.map fun c => UInt8.ofNat c.toNat) =
      .ok letterPayload := by cbv
  rw [htext]
  refine ⟨_, letterPayload, rfl, hbody, _, _, rfl, rfl, ?_⟩
  refine .cons ⟨_, rfl, ?_⟩ (.cons ⟨_, rfl, ?_⟩ .nil)
  · exact ⟨by decide, rfl, rfl, rfl, rfl, [], rfl, rfl, rfl⟩
  · exact ⟨by decide, rfl, rfl, rfl, rfl, [], rfl, rfl, rfl⟩

/-- The letter as one passage and a passage of white space. -/
def letterPassages : List Passage := [letterPassage, ⟨[.added "\n"], none, .lost "", []⟩]

def letterSession : Session :=
  .start ⟨"http://localhost:8081", .empty, .owned true, 1000⟩ [letterReply]

theorem isServed_letterPassages : ∀ p ∈ letterPassages, p.IsServed 1000 letter := by
  refine List.forall_mem_cons.2 ⟨?_, List.forall_mem_singleton.2 ?_⟩
  · exact ⟨by decide, by decide, by decide +kernel, fun _ => isAnswer_letterReply⟩
  · exact ⟨by decide, by decide, by decide +kernel, fun h => absurd h (by decide +kernel)⟩

theorem ofFile_reads_letter :
    ∃ segments, letterPassages.mapM (Passage.segment letter) = .ok segments ∧
      ∃ report, (Report.ofFile (World.ofTexts [("letter", letter.text)]) "letter" segments
          ⟨"en-US", [], []⟩ letterSession).value.1 = .ok report ∧
        report.diagnostics.map (reading letter) = [(letterRemark "odd", .ok " 😀")] ∧
        report.dropped = 1 := by
  obtain ⟨segments, hsegments, _, report, hreport, _, hdiagnostics, hdropped⟩ :=
    ofFile_reads_findings (World.ofTexts [("letter", letter.text)]) "letter" letter
      ⟨"en-US", [], []⟩ letterPassages letterSession [] rfl isServed_letterPassages rfl
      (fun _ _ => List.not_mem_nil) rfl
  refine ⟨segments, hsegments, report, hreport, ?_, ?_⟩
  · rw [hdiagnostics]
    rfl
  · rw [hdropped]
    rfl

end ProseTrace.Proofs.Report.EndToEnd
