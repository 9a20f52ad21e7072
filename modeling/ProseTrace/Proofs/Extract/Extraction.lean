import ProseTrace.Extract.Builder
import ProseTrace.Proofs.Extract.RangeMerging
import Mathlib.Data.List.Chain

/-!
# Extraction and the way back

A text is extracted from a source by copying ranges of it in the order of the source, with added
text between them.  Each character of the text is traced to the bytes it was copied from.  Locating
a suggestion leads back to those bytes: what the source reads there is what was marked, without the
added characters.
-/

namespace ProseTrace.Proofs.Extract.Extraction

open ProseTrace.Text ProseTrace.Document ProseTrace.Finding ProseTrace.Extract
open ProseTrace.Proofs.Document.SourceCuts ProseTrace.Proofs.Extract.RangeMerging

/-- A part of an extracted text: bytes of the source, or text that is not from there. -/
inductive Part where
  | copied (range : ByteRange)
  | added (text : String)
  deriving DecidableEq

/-- Push the parts onto a builder, in order. -/
def pushParts (source : Source) (builder : Builder) :
    List Part → Except Source.AddressError Builder
  | [] => .ok builder
  | .copied range :: rest => do pushParts source (← builder.pushSource source range) rest
  | .added text :: rest => pushParts source (builder.pushSynthetic text) rest

def copiedRanges : List Part → List ByteRange
  | [] => []
  | .copied range :: rest => range :: copiedRanges rest
  | .added _ :: rest => copiedRanges rest

/-- A character of an extracted text, and the bytes it was copied from unless it was added. -/
structure Traced where
  char : Char
  origin : Option ByteRange

/-- The characters of a copied text that begins at a byte of the source. -/
def tracedFrom (offset : Nat) : List Char → List Traced
  | [] => []
  | c :: rest => ⟨c, some (.ofSize offset c.utf8Size)⟩ :: tracedFrom (offset + c.utf8Size) rest

def Part.traced (source : Source) : Part → List Traced
  | .copied range =>
    match source.slice range with
    | .ok text => tracedFrom range.start text.toList
    | .error _ => []
  | .added text => text.toList.map fun c => ⟨c, none⟩

def tracedAll (source : Source) (parts : List Part) : List Traced :=
  parts.flatMap (Part.traced source)

def copiedText (characters : List Traced) : String :=
  String.ofList ((characters.filter fun t => t.origin.isSome).map Traced.char)

def Traced.span (source : Source) (t : Traced) : Option Span :=
  t.origin.map fun range => ⟨source.id, range⟩

/-! ## What a builder records -/

@[simp] theorem map_char_tracedFrom (offset : Nat) (chars : List Char) :
    (tracedFrom offset chars).map Traced.char = chars := by
  induction chars generalizing offset with
  | nil => rfl
  | cons c rest ih => rw [tracedFrom, List.map_cons, ih]

theorem map_some_charSpans (source : Source) (offset : Nat) (chars : List Char) :
    (Builder.charSpans source.id offset chars).map some =
      (tracedFrom offset chars).map (Traced.span source) := by
  induction chars generalizing offset with
  | nil => rfl
  | cons c rest ih =>
    rw [Builder.charSpans, tracedFrom, List.map_cons, List.map_cons, ih]
    rfl

theorem traced_copied {source : Source} {range : ByteRange} {before inside after : List Char}
    (h : Cuts source range before inside after) :
    (Part.copied range).traced source = tracedFrom range.start inside := by
  rw [Part.traced, h.slice_eq]
  simp only [String.toList_ofList]

theorem pushSource_eq {source : Source} {range : ByteRange} (builder : Builder)
    (h : source.admits range = true) :
    builder.pushSource source range =
      .ok ⟨builder.text ++ String.ofList (((Part.copied range).traced source).map Traced.char),
        builder.spans ++ ((Part.copied range).traced source).map (Traced.span source)⟩ := by
  obtain ⟨before, inside, after, hcuts⟩ := admits_iff_exists_cuts.1 h
  simp only [Builder.pushSource, Part.traced, hcuts.slice_eq, map_some_charSpans,
    map_char_tracedFrom, String.ofList_toList]

theorem pushSynthetic_eq (source : Source) (builder : Builder) (text : String) :
    builder.pushSynthetic text =
      ⟨builder.text ++ String.ofList (((Part.added text).traced source).map Traced.char),
        builder.spans ++ ((Part.added text).traced source).map (Traced.span source)⟩ := by
  have hchars : ((Part.added text).traced source).map Traced.char = text.toList := by
    simp [Part.traced, Function.comp_def]
  rw [hchars, String.ofList_toList, Part.traced, List.map_map]
  rfl

/-- Valid parts are taken in, and the builder records where each of their characters is from. -/
theorem pushParts_eq {source : Source} {parts : List Part} (builder : Builder)
    (h : ∀ r ∈ copiedRanges parts, source.admits r = true) :
    pushParts source builder parts =
      .ok ⟨builder.text ++ String.ofList ((tracedAll source parts).map Traced.char),
        builder.spans ++ (tracedAll source parts).map (Traced.span source)⟩ := by
  induction parts generalizing builder with
  | nil => simp [pushParts, tracedAll]
  | cons part rest ih =>
    cases part with
    | copied range =>
      have hrange : source.admits range = true := h range (by simp [copiedRanges])
      have hrest : ∀ r ∈ copiedRanges rest, source.admits r = true :=
        fun r hr => h r (by simp [copiedRanges, hr])
      rw [pushParts, pushSource_eq builder hrange]
      show pushParts source _ rest = _
      rw [ih _ hrest]
      simp only [tracedAll, List.flatMap_cons, List.map_append, String.ofList_append,
        String.append_assoc, List.append_assoc]
    | added text =>
      rw [pushParts, pushSynthetic_eq source, ih _ h]
      simp only [tracedAll, List.flatMap_cons, List.map_append, String.ofList_append,
        String.append_assoc, List.append_assoc]

/-! ## Where the characters are from -/

def origins (characters : List Traced) : List ByteRange := characters.filterMap Traced.origin

/-- What the source reads at the origin of a character is that character. -/
def IsTrue (source : Source) (t : Traced) : Prop :=
  ∀ range, t.origin = some range →
    source.admits range = true ∧ source.slice range = .ok (String.singleton t.char)

theorem isTrue_of_mem_tracedFrom {source : Source} {before chars after : List Char}
    (htext : source.text.toList = before ++ chars ++ after) :
    ∀ t ∈ tracedFrom (measure Char.utf8Size before) chars, IsTrue source t := by
  induction chars generalizing before with
  | nil => simp [tracedFrom]
  | cons c rest ih =>
    intro t ht
    rw [tracedFrom, List.mem_cons] at ht
    rcases ht with rfl | ht
    · intro range hrange
      have hcuts : Cuts source range before [c] (rest ++ after) := by
        obtain rfl := Option.some.inj hrange
        exact ⟨by simp [htext], rfl, by simp [ByteRange.ofSize]⟩
      exact ⟨hcuts.admits, by rw [hcuts.slice_eq, String.singleton_eq_ofList]⟩
    · -- Behind the character the text before it has grown by that character.
      have hnext : measure Char.utf8Size before + c.utf8Size =
          measure Char.utf8Size (before ++ [c]) := by simp
      rw [hnext] at ht
      exact ih (by simp [htext]) t ht

theorem isTrue_of_mem_tracedAll {source : Source} {parts : List Part}
    (h : ∀ r ∈ copiedRanges parts, source.admits r = true) :
    ∀ t ∈ tracedAll source parts, IsTrue source t := by
  induction parts with
  | nil => simp [tracedAll]
  | cons part rest ih =>
    intro t ht
    rw [tracedAll, List.flatMap_cons, List.mem_append] at ht
    cases part with
    | copied range =>
      rcases ht with ht | ht
      · obtain ⟨before, inside, after, hcuts⟩ :=
          admits_iff_exists_cuts.1 (h range (by simp [copiedRanges]))
        rw [traced_copied hcuts, hcuts.start_eq] at ht
        exact isTrue_of_mem_tracedFrom hcuts.text_eq t ht
      · exact ih (fun r hr => h r (by simp [copiedRanges, hr])) t ht
    | added text =>
      rcases ht with ht | ht
      · obtain ⟨c, _, rfl⟩ := List.mem_map.1 ht
        intro range hrange
        cases hrange
      · exact ih h t ht

/-- The characters of a copied range are from inside it, in order. -/
theorem origins_tracedFrom (offset : Nat) (chars : List Char) :
    InOrder (origins (tracedFrom offset chars)) ∧
      ∀ r ∈ origins (tracedFrom offset chars),
        offset ≤ r.start ∧ r.stop ≤ offset + measure Char.utf8Size chars := by
  induction chars generalizing offset with
  | nil => simp [tracedFrom, origins]
  | cons c rest ih =>
    obtain ⟨hrest, hbounds⟩ := ih (offset + c.utf8Size)
    have hcons : origins (tracedFrom offset (c :: rest)) =
        .ofSize offset c.utf8Size :: origins (tracedFrom (offset + c.utf8Size) rest) := rfl
    rw [hcons]
    constructor
    · exact List.pairwise_cons.2 ⟨fun r hr => (hbounds r hr).1, hrest⟩
    · intro r hr
      rw [measure_cons]
      rcases List.mem_cons.1 hr with rfl | hr
      · exact ⟨Nat.le_refl _, by simp only [ByteRange.ofSize]; omega⟩
      · have := hbounds r hr
        omega

theorem origins_copied {source : Source} {range : ByteRange} (h : source.admits range = true) :
    InOrder (origins ((Part.copied range).traced source)) ∧
      ∀ r ∈ origins ((Part.copied range).traced source),
        range.start ≤ r.start ∧ r.stop ≤ range.stop := by
  obtain ⟨before, inside, after, hcuts⟩ := admits_iff_exists_cuts.1 h
  have hstop : range.stop = range.start + measure Char.utf8Size inside := by
    rw [hcuts.stop_eq, hcuts.start_eq, measure_append]
  rw [traced_copied hcuts, hstop]
  exact origins_tracedFrom range.start inside

theorem mem_copiedRange_of_mem_origins {source : Source} {parts : List Part}
    (h : ∀ r ∈ copiedRanges parts, source.admits r = true) {r : ByteRange}
    (hr : r ∈ origins (tracedAll source parts)) :
    ∃ range ∈ copiedRanges parts, range.start ≤ r.start ∧ r.stop ≤ range.stop := by
  induction parts with
  | nil => simp [origins, tracedAll] at hr
  | cons part rest ih =>
    rw [origins, tracedAll, List.flatMap_cons, List.filterMap_append, List.mem_append] at hr
    cases part with
    | copied range =>
      rcases hr with hr | hr
      · exact ⟨range, by simp [copiedRanges],
          (origins_copied (h range (by simp [copiedRanges]))).2 r hr⟩
      · obtain ⟨range', hmem, hbounds⟩ := ih (fun r hr => h r (by simp [copiedRanges, hr])) hr
        exact ⟨range', by simp [copiedRanges, hmem], hbounds⟩
    | added text =>
      rcases hr with hr | hr
      · simp [Part.traced] at hr
      · exact ih h hr

/-- If the ranges are copied in order, so are the characters. -/
theorem inOrder_origins {source : Source} {parts : List Part}
    (h : ∀ r ∈ copiedRanges parts, source.admits r = true)
    (horder : InOrder (copiedRanges parts)) : InOrder (origins (tracedAll source parts)) := by
  induction parts with
  | nil => exact List.Pairwise.nil
  | cons part rest ih =>
    have hsplit : origins (tracedAll source (part :: rest)) =
        origins (part.traced source) ++ origins (tracedAll source rest) := by
      rw [origins, tracedAll, List.flatMap_cons, List.filterMap_append]
      rfl
    rw [hsplit]
    cases part with
    | copied range =>
      obtain ⟨hrange, hlater⟩ := List.pairwise_cons.1 horder
      have hrest : ∀ r ∈ copiedRanges rest, source.admits r = true :=
        fun r hr => h r (by simp [copiedRanges, hr])
      obtain ⟨hinside, hbounds⟩ := origins_copied (h range (by simp [copiedRanges]))
      -- Characters of different parts are as far apart as the ranges that they lie in.
      refine List.pairwise_append.2 ⟨hinside, ih hrest hlater, fun a ha b hb => ?_⟩
      obtain ⟨later, hmem, hstart, _⟩ := mem_copiedRange_of_mem_origins hrest hb
      have := hrange later hmem
      have := hbounds a ha
      omega
    | added text =>
      have hnone : origins ((Part.added text).traced source) = [] := by simp [origins, Part.traced]
      rw [hnone]
      exact ih h horder

theorem sliceAll_origins {source : Source} {characters : List Traced}
    (h : ∀ t ∈ characters, IsTrue source t) :
    sliceAll source (origins characters) = .ok (copiedText characters) := by
  induction characters with
  | nil => rfl
  | cons t rest ih =>
    have hrest := ih fun t ht => h t (List.mem_cons_of_mem _ ht)
    cases horigin : t.origin with
    | none =>
      simp only [origins, copiedText, List.filterMap_cons, horigin, List.filter_cons,
        Option.isSome_none] at hrest ⊢
      exact hrest
    | some range =>
      obtain ⟨_, hslice⟩ := h t List.mem_cons_self range horigin
      have hcons : origins (t :: rest) = range :: origins rest := by
        simp only [origins, List.filterMap_cons, horigin]
      rw [hcons, sliceAll_cons hslice, hrest]
      simp only [copiedText, List.filter_cons, horigin, Option.isSome_some, if_true, List.map_cons]
      rw [← List.singleton_append, String.ofList_append, ← String.singleton_eq_ofList]
      rfl

/-! ## The way back -/

def mappingOf (source : Source) (characters : List Traced) : Mapping :=
  ⟨characters.map (Traced.span source)⟩

theorem markedRanges_mappingOf {source : Source} {characters : List Traced}
    (h : ∀ t ∈ characters, IsTrue source t) (suggestion : Suggestion) :
    (mappingOf source characters).markedRanges suggestion source =
      origins (suggestion.marked characters) := by
  have hmarked : suggestion.marked (characters.map (Traced.span source)) =
      (suggestion.marked characters).map (Traced.span source) := by
    simp only [Suggestion.marked, List.map_drop, List.map_take]
  rw [Mapping.markedRanges, mappingOf, hmarked, List.filterMap_map, origins]
  apply List.filterMap_congr
  intro t ht
  obtain ⟨i, _, _, hi⟩ := mem_marked_iff.1 ht
  have htrue := h t (List.mem_of_getElem? hi)
  cases horigin : t.origin with
  | none => simp [Traced.span, horigin, Mapping.rangeIn?]
  | some range =>
    have hadmits := (htrue range horigin).1
    simp [Traced.span, horigin, Mapping.rangeIn?, hadmits]

theorem inOrder_origins_marked {characters : List Traced} (h : InOrder (origins characters))
    (suggestion : Suggestion) : InOrder (origins (suggestion.marked characters)) := by
  have hsublist : (suggestion.marked characters).Sublist characters :=
    (List.take_sublist _ _).trans (List.drop_sublist _ _)
  exact List.Pairwise.sublist (hsublist.filterMap Traced.origin) h

theorem location_mappingOf {source : Source} {characters : List Traced}
    (h : ∀ t ∈ characters, IsTrue source t) (horder : InOrder (origins characters))
    (suggestion : Suggestion) :
    ((mappingOf source characters).location suggestion source).Pairwise
        (fun a b => a.stop < b.start) ∧
      sliceAll source ((mappingOf source characters).location suggestion source) =
        .ok (copiedText (suggestion.marked characters)) := by
  have htrue : ∀ t ∈ suggestion.marked characters, IsTrue source t := by
    intro t ht
    obtain ⟨i, _, _, hi⟩ := mem_marked_iff.1 ht
    exact h t (List.mem_of_getElem? hi)
  have hadmits : ∀ r ∈ origins (suggestion.marked characters), source.admits r = true := by
    intro r hr
    obtain ⟨t, ht, horigin⟩ := List.mem_filterMap.1 hr
    exact (htrue t ht r horigin).1
  have hmarked := inOrder_origins_marked horder suggestion
  rw [Mapping.location, markedRanges_mappingOf h]
  refine ⟨pairwise_merge (ascending_of_inOrder hmarked), ?_⟩
  calc
    sliceAll source (Mapping.merge (origins (suggestion.marked characters)))
        = sliceAll source (origins (suggestion.marked characters)) := sliceAll_merge hadmits hmarked
    _ = .ok (copiedText (suggestion.marked characters)) := sliceAll_origins htrue

/-- A suggestion has a place in the source if and only if it marks a copied character. -/
theorem location_mappingOf_eq_nil_iff {source : Source} {characters : List Traced}
    (h : ∀ t ∈ characters, IsTrue source t) (suggestion : Suggestion) :
    (mappingOf source characters).location suggestion source = [] ↔
      ∀ t ∈ suggestion.marked characters, t.origin = none := by
  rw [Mapping.location, Mapping.merge_eq_nil_iff, markedRanges_mappingOf h, origins,
    List.filterMap_eq_nil_iff]

theorem inOrder_of_isChain {ranges : List ByteRange}
    (h : ranges.IsChain fun a b => a.stop ≤ b.start) : InOrder ranges := by
  have : Trans (fun a b : ByteRange => a.stop ≤ b.start)
      (fun a b : ByteRange => a.stop ≤ b.start) (fun a b : ByteRange => a.stop ≤ b.start) :=
    ⟨fun {_ b _} hab hbc => hab.trans (b.start_le_stop.trans hbc)⟩
  exact h.pairwise

/-- Extraction and location are inverse: a text extracted from a source in its order has the
characters of its parts, and a suggestion on it is located at ranges that are valid, ascending and
apart, and that read what the suggestion marks without the added characters. -/
theorem location_reads_copied_text (source : Source) (parts : List Part)
    (language : Option String) (hvalid : ∀ r ∈ copiedRanges parts, source.admits r = true)
    (horder : (copiedRanges parts).IsChain fun a b => a.stop ≤ b.start) :
    ∃ builder, pushParts source Builder.empty parts = .ok builder ∧
      (builder.finish language).1.text =
        String.ofList ((tracedAll source parts).map Traced.char) ∧
      ∀ suggestion : Suggestion,
        let locations := (builder.finish language).1.mapping.location suggestion source
        (∀ r ∈ locations, source.admits r = true) ∧
        locations.Pairwise (fun a b => a.stop < b.start) ∧
        sliceAll source locations =
          .ok (copiedText (suggestion.marked (tracedAll source parts))) := by
  have htrue := isTrue_of_mem_tracedAll hvalid
  have hinOrder := inOrder_origins hvalid (inOrder_of_isChain horder)
  refine ⟨_, pushParts_eq Builder.empty hvalid, ?_, fun suggestion => ?_⟩
  · simp [Builder.finish, Builder.empty]
  · obtain ⟨hapart, hreads⟩ := location_mappingOf htrue hinOrder suggestion
    refine ⟨?_, hapart, hreads⟩
    apply admits_of_mem_merge
    intro r hr
    obtain ⟨_, _, _, _, hadmits⟩ := mem_markedRanges_iff.1 hr
    exact hadmits

def notes : Source := ⟨"notes", "a*é*b"⟩

def notesParts : List Part := [.copied ⟨0, 1, by decide⟩, .added " - ", .copied ⟨2, 4, by decide⟩,
  .copied ⟨5, 6, by decide⟩]

/-- A finding on the last characters of the text; it ends behind the text. -/
def notesFinding : Suggestion := ⟨2, 9, ⟨.text "unclear", [], .text "", .text ""⟩, by decide⟩

theorem location_reads_notes :
    (∀ r ∈ copiedRanges notesParts, notes.admits r = true) ∧
    ((copiedRanges notesParts).IsChain fun a b => a.stop ≤ b.start) ∧
    ∃ builder, pushParts notes Builder.empty notesParts = .ok builder ∧
      sliceAll notes ((builder.finish none).1.mapping.location notesFinding notes) = .ok "éb" := by
  have hvalid : ∀ r ∈ copiedRanges notesParts, notes.admits r = true := by decide
  have horder : (copiedRanges notesParts).IsChain fun a b => a.stop ≤ b.start := by decide
  obtain ⟨builder, hbuilder, _, hlocation⟩ :=
    location_reads_copied_text notes notesParts none hvalid horder
  refine ⟨hvalid, horder, builder, hbuilder, ?_⟩
  rw [(hlocation notesFinding).2.2]
  decide +kernel

end ProseTrace.Proofs.Extract.Extraction
