import ProseTrace.Proofs.Document.Boundaries
import ProseTrace.Proofs.Text.WindowRuns

/-!
# Slices by bytes

A slice of a source is given exactly if both its ends are in bounds and inside no character, and is
then the text of the characters between them.  A window cuts the bytes wherever it is told to, and
has to decode what it gets.  As no proper part of a character decodes, it gives the slices of the
source and nothing else.
-/

namespace ProseTrace.Proofs.Document.ByteSlices

open ProseTrace.Text ProseTrace.Document
open ProseTrace.Proofs.Text.OffsetTable ProseTrace.Proofs.Text.Utf8Bytes
open ProseTrace.Proofs.Text.CursorRuns ProseTrace.Proofs.Text.WindowRuns
open ProseTrace.Proofs.Document.Boundaries ProseTrace.Proofs.Document.SourceCuts

/-- The offset lies behind the first byte of a character and in front of its end. -/
def IsInside (source : Source) (offset : Nat) : Prop :=
  ∃ i, i < source.text.toList.length ∧ bytesBefore source.text.toList i < offset ∧
    offset < bytesBefore source.text.toList (i + 1)

def IsAway (source : Source) (offset : Nat) : Prop :=
  source.byteLength < offset ∨ IsInside source offset

variable {source : Source}

/-! ## Offsets -/

theorem exists_measure_take_le {width : Char → Nat} {text : List Char} {offset : Nat}
    (h : offset < measure width text) : ∃ i, i < text.length ∧
      measure width (text.take i) ≤ offset ∧ offset < measure width (text.take (i + 1)) := by
  induction text generalizing offset with
  | nil => exact absurd h (Nat.not_lt_zero _)
  | cons c rest ih =>
    by_cases hfirst : offset < width c
    · exact ⟨0, Nat.succ_pos _, Nat.zero_le _, by simpa using hfirst⟩
    · rw [measure_cons] at h
      have hrest : offset - width c < measure width rest := by omega
      obtain ⟨i, hi, hle, hlt⟩ := ih hrest
      refine ⟨i + 1, Nat.succ_lt_succ hi, ?_, ?_⟩
      · rw [List.take_succ_cons, measure_cons]
        omega
      · rw [List.take_succ_cons, measure_cons]
        omega

theorem byteLength_eq_measure (source : Source) :
    source.byteLength = measure Char.utf8Size source.text.toList := by
  rw [Source.byteLength_eq, utf8ByteSize_eq_measure]

theorem not_isInside_of_isBoundary {offset : Nat} (h : source.isBoundary offset = true) :
    ¬ IsInside source offset := by
  rintro ⟨i, hi, hlow, hhigh⟩
  obtain ⟨j, hj, rfl⟩ := isBoundary_iff_exists_take.1 h
  rw [bytesBefore_eq_measure] at hlow hhigh
  rcases Nat.lt_or_ge i j with hij | hji
  · have := measure_take_le Char.utf8Size source.text.toList (show i + 1 ≤ j from hij)
    omega
  · have := measure_take_le Char.utf8Size source.text.toList hji
    omega

theorem le_byteLength_of_isBoundary {offset : Nat} (h : source.isBoundary offset = true) :
    offset ≤ source.byteLength := by
  obtain ⟨i, hi, rfl⟩ := isBoundary_iff_exists_take.1 h
  have hall := measure_take_le Char.utf8Size source.text.toList hi
  rwa [List.take_length, ← byteLength_eq_measure] at hall

theorem isBoundary_byteLength (source : Source) : source.isBoundary source.byteLength = true := by
  have h := isBoundary_measure_take source source.text.toList.length
  rwa [List.take_length, ← byteLength_eq_measure] at h

theorem isBoundary_of_not_isInside {offset : Nat} (hle : offset ≤ source.byteLength)
    (h : ¬ IsInside source offset) : source.isBoundary offset = true := by
  rcases Nat.lt_or_eq_of_le hle with hlt | rfl
  · rw [byteLength_eq_measure] at hlt
    obtain ⟨i, hi, hlow, hhigh⟩ := exists_measure_take_le hlt
    have hat : measure Char.utf8Size (source.text.toList.take i) = offset := by
      refine Nat.le_antisymm hlow (Nat.not_lt.1 fun hbehind => h ⟨i, hi, ?_, ?_⟩)
      · rwa [bytesBefore_eq_measure]
      · rwa [bytesBefore_eq_measure]
    rw [← hat]
    exact isBoundary_measure_take source i
  · exact isBoundary_byteLength source

theorem isBoundary_iff_not_isAway {offset : Nat} :
    source.isBoundary offset = true ↔ ¬ IsAway source offset := by
  constructor
  · rintro h (hbeyond | hinside)
    · have := le_byteLength_of_isBoundary h
      omega
    · exact not_isInside_of_isBoundary h hinside
  · intro h
    obtain ⟨hbeyond, hinside⟩ := not_or.1 h
    exact isBoundary_of_not_isInside (by omega) hinside

theorem isInside_iff_isBoundary_eq_false {offset : Nat} (hle : offset ≤ source.byteLength) :
    IsInside source offset ↔ source.isBoundary offset = false := by
  rw [Bool.eq_false_iff, Ne, isBoundary_iff_not_isAway, not_not, IsAway]
  exact (or_iff_right (by omega)).symm

/-! ## Slices -/

theorem slice_eq_error_iff {range : ByteRange} :
    source.slice range = .error (.invalidRange range source.id) ↔
      IsAway source range.start ∨ IsAway source range.stop := by
  constructor
  · intro h
    by_contra haway
    obtain ⟨hstart, hstop⟩ := not_or.1 haway
    have hadmits : source.admits range = true :=
      Source.admits_iff.2 ⟨isBoundary_iff_not_isAway.2 hstart, isBoundary_iff_not_isAway.2 hstop⟩
    obtain ⟨before, inside, after, hcuts⟩ := admits_iff_exists_cuts.1 hadmits
    cases hcuts.slice_eq.symm.trans h
  · intro h
    have hrefused : ¬ source.admits range = true := by
      rw [Source.admits_iff, isBoundary_iff_not_isAway, isBoundary_iff_not_isAway]
      exact fun ⟨hstart, hstop⟩ => h.elim hstart hstop
    rw [Source.slice, if_neg hrefused]

theorem slice_of_cuts {range : ByteRange} {before inside after : List Char}
    (h : Cuts source range before inside after) :
    source.charIndex range.start = .ok before.length ∧
    source.charIndex range.stop = .ok (before ++ inside).length ∧
    inside = (source.text.toList.take (before ++ inside).length).drop before.length ∧
    (String.ofList inside).utf8ByteSize = range.size.bytes := by
  have hlength : source.text.toList.length = before.length + inside.length + after.length := by
    rw [h.text_eq, List.length_append, List.length_append]
  have hfront : source.text.toList.take before.length = before := by
    rw [h.text_eq, List.append_assoc, List.take_left]
  have hback : source.text.toList.take (before ++ inside).length = before ++ inside := by
    rw [h.text_eq, List.take_left]
  refine ⟨?_, ?_, ?_, ?_⟩
  · have hle : before.length ≤ source.text.toList.length := by omega
    have hat := charIndex_bytesBefore hle
    rwa [bytesBefore_eq_measure, hfront, ← h.start_eq] at hat
  · have hle : (before ++ inside).length ≤ source.text.toList.length := by
      rw [List.length_append]
      omega
    have hat := charIndex_bytesBefore hle
    rwa [bytesBefore_eq_measure, hback, ← h.stop_eq] at hat
  · rw [hback, List.drop_left]
  · have hstop := h.stop_eq
    rw [measure_append, ← h.start_eq] at hstop
    rw [utf8ByteSize_eq_measure, String.toList_ofList, ByteRange.size]
    dsimp only
    omega

theorem slice_split {range : ByteRange} {text : String} {m : Nat}
    (h : source.slice range = .ok text) (hm : source.isBoundary m = true)
    (hstart : range.start ≤ m) (hstop : m ≤ range.stop) :
    ∃ front back, source.slice ⟨range.start, m, hstart⟩ = .ok front ∧
      source.slice ⟨m, range.stop, hstop⟩ = .ok back ∧ text = front ++ back := by
  have hadmits : source.admits range = true := by
    by_contra hrefused
    rw [Source.slice, if_neg hrefused] at h
    cases h
  obtain ⟨hlow, hhigh⟩ := Source.admits_iff.1 hadmits
  obtain ⟨front, back, hfront, hback, hboth⟩ :=
    slice_cover (a := ⟨range.start, m, hstart⟩) (b := ⟨m, range.stop, hstop⟩)
      (Source.admits_iff.2 ⟨hlow, hm⟩) (Source.admits_iff.2 ⟨hm, hhigh⟩) rfl
  have hcover : ByteRange.cover ⟨range.start, m, hstart⟩ ⟨m, range.stop, hstop⟩ = range :=
    ByteRange.ext (Nat.min_eq_left hstart) (Nat.max_eq_right hstop)
  rw [hcover, h] at hboth
  exact ⟨front, back, hfront, hback, Except.ok.inj hboth⟩

/-! ## Slices of windows -/

theorem fromUTF8?_eq_none_iff {bytes : ByteArray} :
    String.fromUTF8? bytes = none ↔ ¬ bytes.IsValidUTF8 := by
  rw [String.fromUTF8?]
  split
  next h => exact iff_of_false (Option.some_ne_none _) (not_not.2 h)
  next h => exact iff_of_true rfl h

/-- What is cut out of the bytes of a text decodes if it is empty, or if both cuts lie between
characters. -/
theorem fromUTF8?_extract_eq_none_iff {first last : Nat} (hle : first ≤ last)
    (hlast : last ≤ source.byteLength) :
    String.fromUTF8? (source.encoded.extract first last) = none ↔
      first < last ∧ (IsInside source first ∨ IsInside source last) := by
  have hvalid : (source.encoded.extract first last).IsValidUTF8 ↔
      first = last ∨ source.isBoundary first = true ∧ source.isBoundary last = true := by
    rw [isBoundary_iff_isValid, isBoundary_iff_isValid]
    refine (String.Pos.Raw.isValidUTF8_extract_iff ⟨first⟩ ⟨last⟩ hle hlast).trans ?_
    rw [String.Pos.Raw.ext_iff]
  rw [fromUTF8?_eq_none_iff, hvalid, isInside_iff_isBoundary_eq_false (by omega),
    isInside_iff_isBoundary_eq_false hlast]
  cases source.isBoundary first <;> cases source.isBoundary last <;> simp <;> omega

theorem substring_windowAfter (line : Int) (run : List Query) (start stop : Int) :
    (windowAfter line source.text run).substring start stop =
      match String.fromUTF8? (source.encoded.extract (SignedIndex.clamp source.byteLength start)
        (SignedIndex.clamp source.byteLength stop)) with
      | some text => .ok text
      | none => .error {} := by
  obtain ⟨n, -, hafter⟩ := exists_cursorAfter_eq source.text run
  rw [Window.substring, cursor_windowAfter, hafter, chars_cursorAt, String.ofList_toList]
  rfl

/-- However a window was moved, what it cuts is told by the bounds in the bytes. -/
theorem substring_cases {first last : Nat} (line : Int) (run : List Query) {start stop : Int}
    (hfirst : SignedIndex.clamp source.byteLength start = first)
    (hlast : SignedIndex.clamp source.byteLength stop = last) :
    (last ≤ first → (windowAfter line source.text run).substring start stop = .ok "") ∧
    (first < last → IsInside source first ∨ IsInside source last →
      (windowAfter line source.text run).substring start stop = .error {}) ∧
    (∀ hlt : first < last, ¬ (IsInside source first ∨ IsInside source last) →
      ∃ text, (windowAfter line source.text run).substring start stop = .ok text ∧
        source.slice ⟨first, last, Nat.le_of_lt hlt⟩ = .ok text) := by
  have hbound : last ≤ source.byteLength := hlast ▸ SignedIndex.clamp_le _ _
  rw [substring_windowAfter, hfirst, hlast]
  refine ⟨fun hle => ?_, fun hlt hinside => ?_, fun hlt hboth => ?_⟩
  · have hempty : source.encoded.extract first last = "".toByteArray :=
      ByteArray.extract_eq_empty_iff.2 (Nat.le_trans (Nat.min_le_left _ _) hle)
    rw [hempty, fromUTF8?_toByteArray]
  · rw [(fromUTF8?_extract_eq_none_iff (Nat.le_of_lt hlt) hbound).2 ⟨hlt, hinside⟩]
  · obtain ⟨hlow, hhigh⟩ := not_or.1 hboth
    have hadmits : source.admits ⟨first, last, Nat.le_of_lt hlt⟩ = true :=
      Source.admits_iff.2 ⟨isBoundary_of_not_isInside (Nat.le_trans (Nat.le_of_lt hlt) hbound) hlow,
        isBoundary_of_not_isInside hbound hhigh⟩
    obtain ⟨text, htext⟩ : ∃ text, String.fromUTF8? (source.encoded.extract first last) =
        some text := by
      rw [← Option.ne_none_iff_exists', Ne,
        fromUTF8?_extract_eq_none_iff (Nat.le_of_lt hlt) hbound]
      exact fun h => hboth h.2
    refine ⟨text, by rw [htext], ?_⟩
    rw [Source.slice, if_pos hadmits, htext]

/-- A range has a slice if and only if both ends are in bounds and inside no character.  The slice
is the text of the characters between its ends, takes as many bytes as the range, and falls into two
slices at every boundary between.  A window cuts between two bounds, clamped into the bytes: nothing
if they are not in order, else the slice of the source, or a split character if one of them is
inside a character. -/
theorem slices_are_exact (source : Source) :
    (∀ range, source.slice range = .error (.invalidRange range source.id) ↔
      IsAway source range.start ∨ IsAway source range.stop) ∧
    (∀ range, ¬ (IsAway source range.start ∨ IsAway source range.stop) →
      ∃ i j text, source.charIndex range.start = .ok i ∧ source.charIndex range.stop = .ok j ∧
        source.slice range = .ok text ∧ text.toList = (source.text.toList.take j).drop i ∧
        text.utf8ByteSize = range.size.bytes ∧
        ∀ m (hstart : range.start ≤ m) (hstop : m ≤ range.stop), source.isBoundary m = true →
          ∃ front back, source.slice ⟨range.start, m, hstart⟩ = .ok front ∧
            source.slice ⟨m, range.stop, hstop⟩ = .ok back ∧ text = front ++ back) ∧
    (∀ line run start stop,
      let first := SignedIndex.clamp source.byteLength start
      let last := SignedIndex.clamp source.byteLength stop
      let cut := (windowAfter line source.text run).substring start stop
      (last ≤ first → cut = .ok "") ∧
      (first < last → IsInside source first ∨ IsInside source last → cut = .error {}) ∧
      (∀ hlt : first < last, ¬ (IsInside source first ∨ IsInside source last) →
        ∃ text, cut = .ok text ∧ source.slice ⟨first, last, Nat.le_of_lt hlt⟩ = .ok text)) := by
  refine ⟨fun _ => slice_eq_error_iff, fun range hboth => ?_,
    fun line run start stop => substring_cases line run rfl rfl⟩
  obtain ⟨hstart, hstop⟩ := not_or.1 hboth
  have hadmits : source.admits range = true :=
    Source.admits_iff.2 ⟨isBoundary_iff_not_isAway.2 hstart, isBoundary_iff_not_isAway.2 hstop⟩
  obtain ⟨before, inside, after, hcuts⟩ := admits_iff_exists_cuts.1 hadmits
  obtain ⟨hfront, hback, hinside, hsize⟩ := slice_of_cuts hcuts
  exact ⟨_, _, _, hfront, hback, hcuts.slice_eq, by rwa [String.toList_ofList], hsize,
    fun m hlow hhigh hm => slice_split hcuts.slice_eq hm hlow hhigh⟩

end ProseTrace.Proofs.Document.ByteSlices
