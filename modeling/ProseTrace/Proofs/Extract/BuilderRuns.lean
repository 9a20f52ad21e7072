import Mathlib.Data.List.Forall2
import ProseTrace.Proofs.Extract.Extraction
import ProseTrace.Proofs.Text.Utf8Bytes

/-!
# Runs of a builder

A builder is given pieces of sources, texts of nodes and texts of no origin, in any order, and is
asked to finish from time to time.  Its text and its spans are two lists that grow together: each
call that is not refused records one entry for every character that it adds.  So the builder always
holds the entries of the calls behind the last one to finish, and a segment is made of them.
-/

namespace ProseTrace.Proofs.Extract.BuilderRuns

open ProseTrace.Text ProseTrace.Document ProseTrace.Extract
open ProseTrace.Proofs.Text.Utf8Bytes ProseTrace.Proofs.Document.SourceCuts
open ProseTrace.Proofs.Extract.Extraction

/-! ## Calls -/

inductive Call where
  | source (source : Source) (range : ByteRange)
  | node (text : String) (span : Span)
  | synthetic (text : String)
  | finish (language : Option String)

inductive Answer where
  | pushed
  | refused (error : Source.AddressError)
  | finished (segment : Segment)

def turn (b : Builder) : Call → Answer × Builder
  | .source source range =>
    match b.pushSource source range with
    | .ok next => (.pushed, next)
    | .error error => (.refused error, b)
  | .node text span => (.pushed, b.pushNode text span)
  | .synthetic text => (.pushed, b.pushSynthetic text)
  | .finish language => (.finished (b.finish language).1, (b.finish language).2)

def run (b : Builder) : List Call → List Answer × Builder
  | [] => ([], b)
  | call :: rest => ((turn b call).1 :: (run (turn b call).2 rest).1, (run (turn b call).2 rest).2)

theorem run_append (b : Builder) (front back : List Call) :
    run b (front ++ back) =
      ((run b front).1 ++ (run (run b front).2 back).1, (run (run b front).2 back).2) := by
  induction front generalizing b with
  | nil => rfl
  | cons call rest ih => rw [List.cons_append, run, ih]; rfl

/-- The calls that count behind one more: one to finish starts afresh. -/
def keep (calls : List Call) : Call → List Call
  | .finish _ => []
  | call => calls ++ [call]

def sinceFinish (calls : List Call) : List Call := calls.foldl keep []

/-! ## Entries -/

/-- A character of the text, and the span recorded for it. -/
structure Entry where
  char : Char
  span : Option Span

def textOf (entries : List Entry) : String := String.ofList (entries.map Entry.char)

/-- The span of a character that is copied behind the first `n` characters of a range: the bytes
that it takes there. -/
def IsCopied (source : Source) (range : ByteRange) (text : List Char) (n : Nat) (e : Entry) :
    Prop :=
  ∃ own : ByteRange, e.span = some ⟨source.id, own⟩ ∧
    source.admits own = true ∧ range.contains own = true ∧
    source.slice own = .ok (String.singleton e.char) ∧
    own.start = range.start + bytesBefore text n

inductive Records : Call → List Entry → Prop where
  | copied {source : Source} {range : ByteRange} {entries : List Entry}
      (hslice : source.slice range = .ok (textOf entries))
      (hspan : ∀ i e, entries[i]? = some e →
        IsCopied source range (entries.map Entry.char) i e) :
      Records (.source source range) entries
  | refused {source : Source} {range : ByteRange} (h : source.admits range = false) :
      Records (.source source range) []
  | node {text : String} {span : Span} {entries : List Entry} (htext : textOf entries = text)
      (hspan : ∀ e ∈ entries, e.span = some span) :
      Records (.node text span) entries
  | synthetic {text : String} {entries : List Entry} (htext : textOf entries = text)
      (hspan : ∀ e ∈ entries, e.span = none) :
      Records (.synthetic text) entries

def enlarge (b : Builder) (entries : List Entry) : Builder :=
  ⟨b.text ++ textOf entries, b.spans ++ entries.map Entry.span⟩

/-! ## Copied characters -/

def entryOf (source : Source) (t : Traced) : Entry := ⟨t.char, t.span source⟩

theorem map_char_entryOf (source : Source) (offset : Nat) (chars : List Char) :
    ((tracedFrom offset chars).map (entryOf source)).map Entry.char = chars := by
  rw [List.map_map]
  exact map_char_tracedFrom offset chars

theorem getElem?_tracedFrom (offset : Nat) (chars : List Char) (i : Nat) :
    (tracedFrom offset chars)[i]? = chars[i]?.map fun c =>
      ⟨c, some (.ofSize (offset + measure Char.utf8Size (chars.take i)) c.utf8Size)⟩ := by
  induction chars generalizing offset i with
  | nil => rfl
  | cons c rest ih =>
    cases i with
    | zero => rfl
    | succ i =>
      rw [tracedFrom, List.getElem?_cons_succ, List.getElem?_cons_succ, ih, List.take_succ_cons,
        measure_cons, Nat.add_assoc]

theorem isCopied_of_getElem? {source : Source} {range : ByteRange}
    {before inside after : List Char} (h : Cuts source range before inside after) {i : Nat}
    {t : Traced} (ht : (tracedFrom range.start inside)[i]? = some t) :
    IsCopied source range inside i (entryOf source t) := by
  have hmem : t ∈ tracedFrom range.start inside := List.mem_of_getElem? ht
  have htrue : IsTrue source t := by
    rw [h.start_eq] at hmem
    exact isTrue_of_mem_tracedFrom h.text_eq t hmem
  rw [getElem?_tracedFrom] at ht
  obtain ⟨c, _, rfl⟩ := Option.map_eq_some_iff.1 ht
  obtain ⟨hadmits, hslice⟩ := htrue _ rfl
  have hbounds := (origins_tracedFrom range.start inside).2 _
    (List.mem_filterMap.2 ⟨_, hmem, rfl⟩)
  have hstart := h.start_eq
  have hstop := h.stop_eq
  rw [measure_append] at hstop
  refine ⟨_, rfl, hadmits, ?_, hslice, ?_⟩
  · rw [ByteRange.contains_iff]
    omega
  · rw [bytesBefore_eq_measure]
    rfl

theorem records_copied {source : Source} {range : ByteRange} {before inside after : List Char}
    (h : Cuts source range before inside after) :
    Records (.source source range) ((tracedFrom range.start inside).map (entryOf source)) := by
  refine .copied ?_ fun i e he => ?_
  · rw [textOf, map_char_entryOf, h.slice_eq]
  · rw [List.getElem?_map] at he
    obtain ⟨t, ht, rfl⟩ := Option.map_eq_some_iff.1 he
    rw [map_char_entryOf]
    exact isCopied_of_getElem? h ht

/-! ## One call -/

theorem turn_source_of_cuts (b : Builder) {source : Source} {range : ByteRange}
    {before inside after : List Char} (h : Cuts source range before inside after) :
    turn b (.source source range) =
      (.pushed, enlarge b ((tracedFrom range.start inside).map (entryOf source))) := by
  rw [turn, pushSource_eq b h.admits, traced_copied h, enlarge, textOf, List.map_map, List.map_map]
  rfl

theorem turn_source_of_not_admits (b : Builder) {source : Source} {range : ByteRange}
    (h : source.admits range = false) :
    turn b (.source source range) = (.refused (.invalidRange range source.id), b) := by
  have hslice : source.slice range = .error (.invalidRange range source.id) := by
    rw [Source.slice, h]
    rfl
  rw [turn, Builder.pushSource, hslice]

theorem exists_records (b : Builder) {call : Call} (h : ∀ language, call ≠ .finish language) :
    ∃ entries, Records call entries ∧ (turn b call).2 = enlarge b entries := by
  cases call with
  | source source range =>
    cases hadmits : source.admits range with
    | false =>
      refine ⟨[], .refused hadmits, ?_⟩
      rw [turn_source_of_not_admits b hadmits]
      simp [enlarge, textOf]
    | true =>
      obtain ⟨before, inside, after, hcuts⟩ := admits_iff_exists_cuts.1 hadmits
      exact ⟨_, records_copied hcuts, by rw [turn_source_of_cuts b hcuts]⟩
  | node text span =>
    refine ⟨text.toList.map fun c => ⟨c, some span⟩, .node ?_ ?_, ?_⟩
    · simp [textOf, Function.comp_def]
    · simp
    · simp [turn, enlarge, Builder.pushNode, textOf, Function.comp_def]
  | synthetic text =>
    refine ⟨text.toList.map fun c => ⟨c, none⟩, .synthetic ?_ ?_, ?_⟩
    · simp [textOf, Function.comp_def]
    · simp
    · simp [turn, enlarge, Builder.pushSynthetic, textOf, Function.comp_def]
  | finish language => exact absurd rfl (h language)

/-! ## Runs -/

/-- The builder holds what these calls record, one behind the other. -/
def Holds (calls : List Call) (b : Builder) : Prop :=
  ∃ records : List (List Entry), List.Forall₂ Records calls records ∧
    b = enlarge .empty records.flatten

theorem holds_empty : Holds [] .empty := ⟨[], .nil, rfl⟩

theorem enlarge_append (b : Builder) (front back : List Entry) :
    enlarge b (front ++ back) = enlarge (enlarge b front) back := by
  simp only [enlarge, textOf, List.map_append, String.ofList_append, String.append_assoc,
    List.append_assoc]

theorem Holds.turn {calls : List Call} {b : Builder} (h : Holds calls b) (call : Call) :
    Holds (keep calls call) (turn b call).2 := by
  by_cases hfinish : ∃ language, call = .finish language
  · obtain ⟨language, rfl⟩ := hfinish
    exact holds_empty
  · have hkeep : keep calls call = calls ++ [call] := by
      cases call with
      | finish language => exact absurd ⟨language, rfl⟩ hfinish
      | _ => rfl
    obtain ⟨records, hrecords, rfl⟩ := h
    obtain ⟨entries, hentries, hturn⟩ := exists_records (enlarge .empty records.flatten)
      fun language h => hfinish ⟨language, h⟩
    refine ⟨records ++ [entries], ?_, ?_⟩
    · rw [hkeep]
      exact List.rel_append hrecords (.cons hentries .nil)
    · rw [hturn, ← enlarge_append, List.flatten_append, List.flatten_singleton]

theorem Holds.run {earlier : List Call} {b : Builder} (h : Holds earlier b) (calls : List Call) :
    Holds (calls.foldl keep earlier) (run b calls).2 := by
  induction calls generalizing earlier b with
  | nil => exact h
  | cons call rest ih => exact ih (h.turn call)

theorem Holds.size_eq {calls : List Call} {b : Builder} (h : Holds calls b) :
    b.size = b.text.length := by
  obtain ⟨records, _, rfl⟩ := h
  show ([] ++ records.flatten.map Entry.span).length = ("" ++ textOf records.flatten).length
  rw [List.nil_append, List.length_map, String.empty_append, textOf, String.length_ofList,
    List.length_map]

/-- Behind any calls a builder has a span for each character of its text.  It holds what the calls
behind the last one to finish record: of a piece of a source each character with its own bytes, of
a node each with the node's span, and of other text each without a span.  A piece is refused if and
only if its range is not valid, and nothing changes then.  To finish gives a segment of what is held
and starts afresh; the answers given so far stay what they are. -/
theorem run_builder (calls : List Call) :
    ((run .empty calls).2.size = (run .empty calls).2.text.length ∧
      ∃ records : List (List Entry), List.Forall₂ Records (sinceFinish calls) records ∧
        (run .empty calls).2.text = textOf records.flatten ∧
        (run .empty calls).2.spans = records.flatten.map Entry.span) ∧
    (∀ (source : Source) (range : ByteRange),
      if source.admits range then (turn (run .empty calls).2 (.source source range)).1 = .pushed
      else turn (run .empty calls).2 (.source source range) =
        (.refused (.invalidRange range source.id), (run .empty calls).2)) ∧
    (∀ language, ∃ segment,
      turn (run .empty calls).2 (.finish language) = (.finished segment, .empty) ∧
        segment.text = (run .empty calls).2.text ∧
        segment.mapping.spans = (run .empty calls).2.spans ∧
        segment.mapping.size = segment.text.length ∧ segment.language = language) ∧
    (∀ later, (run .empty calls).1 <+: (run .empty (calls ++ later)).1) := by
  have hholds : Holds (sinceFinish calls) (run .empty calls).2 := holds_empty.run calls
  refine ⟨⟨hholds.size_eq, ?_⟩, ?_, ?_, ?_⟩
  · obtain ⟨records, hrecords, hbuilder⟩ := hholds
    refine ⟨records, hrecords, ?_, ?_⟩
    · rw [hbuilder]
      simp [enlarge, Builder.empty]
    · rw [hbuilder]
      simp [enlarge, Builder.empty]
  · intro source range
    split
    next hadmits =>
      obtain ⟨before, inside, after, hcuts⟩ := admits_iff_exists_cuts.1 hadmits
      rw [turn_source_of_cuts _ hcuts]
    next hadmits =>
      exact turn_source_of_not_admits _ (Bool.not_eq_true _ ▸ hadmits)
  · intro language
    exact ⟨_, rfl, rfl, rfl, hholds.size_eq, rfl⟩
  · intro later
    rw [run_append]
    exact List.prefix_append _ _

end ProseTrace.Proofs.Extract.BuilderRuns
