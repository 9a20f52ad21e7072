import Mathlib.Data.List.Basic
import ProseTrace.Finding.Located
import ProseTrace.Proofs.Document.SourceCuts
import ProseTrace.Proofs.Text.ExactPlaces

/-!
# Lines and columns of single locations

Diagnostics are located with one window for all their locations, visited in the order of their
starts.  The outcome is the one of a reference that looks at each location by itself: the window
stands at an exact place before every location, since it starts afresh rather than go back.
-/

namespace ProseTrace.Proofs.Finding.LocatedReference

open ProseTrace.Text ProseTrace.Document ProseTrace.Finding
open ProseTrace.Proofs.Text.OffsetTable ProseTrace.Proofs.Text.ExactPlaces
open ProseTrace.Proofs.Document.SourceCuts

/-! ## The reference -/

/-- How many characters of a text begin before a byte offset. -/
def charsBefore : List Char → Nat → Nat
  | [], _ => 0
  | c :: rest, offset => if offset = 0 then 0 else charsBefore rest (offset - c.utf8Size) + 1

/-- The characters from `first` up to, and without, `last` take the bytes of the range. -/
def Covers (source : Source) (range : ByteRange) (first last : Nat) : Prop :=
  first ≤ last ∧ last ≤ source.text.toList.length ∧
    measure Char.utf8Size (source.text.toList.take first) = range.start ∧
    measure Char.utf8Size (source.text.toList.take last) = range.stop

/-- The positions of the ends of one range; the end is held in front of the first line end that
follows the start. -/
def locateAlone (source : Source) (range : ByteRange) : LocatedRange :=
  let text := source.text.toList
  let first := charsBefore text range.start
  let last := charsBefore text range.stop
  ⟨range, ⟨range.start, (text.take first).count '\n', columnBehind (text.take first)⟩,
    placeAt 0 text (min last (lineEndFrom text first))⟩

def locateEach (source : Source) (diagnostic : Diagnostic) : LocatedDiagnostic :=
  ⟨diagnostic, diagnostic.locations.map (locateAlone source)⟩

theorem charsBefore_measure_take {text : List Char} {i : Nat} (hi : i ≤ text.length) :
    charsBefore text (measure Char.utf8Size (text.take i)) = i := by
  induction text generalizing i with
  | nil =>
    have : i = 0 := Nat.le_zero.1 hi
    rw [this, charsBefore]
  | cons c rest ih =>
    cases i with
    | zero => simp [charsBefore]
    | succ i =>
      have hpos := Char.utf8Size_pos c
      have hi' : i ≤ rest.length := by simpa using hi
      rw [List.take_succ_cons, measure_cons, charsBefore, if_neg (by omega),
        Nat.add_sub_cancel_left, ih hi']

theorem covers_of_admits {source : Source} {range : ByteRange} (h : source.admits range = true) :
    Covers source range (charsBefore source.text.toList range.start)
      (charsBefore source.text.toList range.stop) := by
  obtain ⟨i, j, hij, hj, hstart, hstop⟩ := exists_take_of_admits h
  have hi : i ≤ source.text.toList.length := Nat.le_trans hij hj
  rw [← hstart, ← hstop, charsBefore_measure_take hi, charsBefore_measure_take hj]
  exact ⟨hij, hj, hstart, hstop⟩

/-! ## One location -/

theorem charIndex_of_covers {source : Source} {range : ByteRange} {first last : Nat}
    (h : Covers source range first last) :
    source.charIndex range.start = .ok first ∧ source.charIndex range.stop = .ok last := by
  obtain ⟨hle, hlast, hstart, hstop⟩ := h
  rw [← hstart, ← hstop]
  exact ⟨charIndex_measure_take (Nat.le_trans hle hlast), charIndex_measure_take hlast⟩

/-- A window at an exact place is never moved back: it goes on, or starts afresh. -/
theorem windowFor_windowAt (source : Source) {n : Nat} (hn : n ≤ source.text.toList.length)
    (target : Nat) :
    ∃ m, m ≤ target ∧ LocatedDiagnostic.windowFor source (windowAt 0 source.text.toList n) target =
      windowAt 0 source.text.toList m := by
  have hindex : (windowAt 0 source.text.toList n).cursor.charIndex = n := charIndex_cursorAt hn
  unfold LocatedDiagnostic.windowFor
  rw [hindex]
  split
  next => exact ⟨0, Nat.zero_le _, onLine_eq_windowAt 0 source.text⟩
  next hle => exact ⟨n, by omega, rfl⟩

/-- From an exact place a valid range is located as it is alone, and the window is left at an exact
place. -/
theorem locateRange_windowAt {source : Source} {range : ByteRange}
    (h : source.admits range = true) {n : Nat} (hn : n ≤ source.text.toList.length) :
    ∃ m, m ≤ source.text.toList.length ∧
      LocatedDiagnostic.locateRange source (windowAt 0 source.text.toList n) range =
        .ok (locateAlone source range, windowAt 0 source.text.toList m) := by
  have hcovers := covers_of_admits h
  -- From here on only the numbers of the characters matter, not how they are found.
  have hlocated : locateAlone source range =
      ⟨range, ⟨range.start,
        (source.text.toList.take (charsBefore source.text.toList range.start)).count '\n',
        columnBehind (source.text.toList.take (charsBefore source.text.toList range.start))⟩,
        placeAt 0 source.text.toList (min (charsBefore source.text.toList range.stop)
          (lineEndFrom source.text.toList (charsBefore source.text.toList range.start)))⟩ := rfl
  generalize charsBefore source.text.toList range.start = first at hcovers hlocated
  generalize charsBefore source.text.toList range.stop = last at hcovers hlocated
  obtain ⟨hstart, hstop⟩ := charIndex_of_covers hcovers
  obtain ⟨hle, hlast, hbyte, _⟩ := hcovers
  obtain ⟨k, hk, hwindow⟩ := windowFor_windowAt source hn first
  refine ⟨min last (lineEndFrom source.text.toList first), by omega, ?_⟩
  have hfirst : (windowAt 0 source.text.toList k).moveTo first false =
      (placeAt 0 source.text.toList first, windowAt 0 source.text.toList first) :=
    moveTo_windowAt 0 hk (Nat.le_trans hle hlast) false
  have hsecond : (windowAt 0 source.text.toList first).moveTo last true = _ :=
    moveTo_windowAt 0 hle hlast true
  rw [hlocated, LocatedDiagnostic.locateRange, hstart, hstop]
  simp only [bind, Except.bind, pure, Except.pure, hwindow, hfirst, hsecond]
  simp only [reached, if_true, placeAt, hbyte, Int.zero_add]

theorem locateRange_eq_error {source : Source} {range : ByteRange}
    (h : source.admits range = false) (window : Window) :
    ∃ e, LocatedDiagnostic.locateRange source window range = .error e := by
  unfold Source.admits at h
  rw [Bool.and_eq_false_iff] at h
  unfold LocatedDiagnostic.locateRange
  rcases h with hstart | hstop
  · rw [charIndex_eq_error hstart]
    exact ⟨_, rfl⟩
  · cases source.charIndex range.start with
    | error e => exact ⟨e, rfl⟩
    | ok first =>
      rw [charIndex_eq_error hstop]
      exact ⟨_, rfl⟩

/-! ## All locations -/

theorem locateAll_windowAt {source : Source}
    {requests : List (LocatedDiagnostic.Key × ByteRange)}
    (h : ∀ request ∈ requests, source.admits request.2 = true) {n : Nat}
    (hn : n ≤ source.text.toList.length) :
    LocatedDiagnostic.locateAll source (windowAt 0 source.text.toList n) requests =
      .ok (requests.map fun request => (request.1, locateAlone source request.2)) := by
  -- The window is left at another exact place by each request, so the place is general.
  induction requests generalizing n with
  | nil => rfl
  | cons request rest ih =>
    obtain ⟨m, hm, hrange⟩ := locateRange_windowAt (h request List.mem_cons_self) hn
    rw [LocatedDiagnostic.locateAll, hrange]
    show (LocatedDiagnostic.locateAll source (windowAt 0 source.text.toList m) rest >>= _) = _
    rw [ih (fun r hr => h r (List.mem_cons_of_mem _ hr)) hm]
    rfl

theorem locateAll_eq_error {source : Source}
    {requests : List (LocatedDiagnostic.Key × ByteRange)}
    (h : ∃ request ∈ requests, source.admits request.2 = false) (window : Window) :
    ∃ e, LocatedDiagnostic.locateAll source window requests = .error e := by
  induction requests generalizing window with
  | nil => simp at h
  | cons request rest ih =>
    rw [LocatedDiagnostic.locateAll]
    cases hrange : LocatedDiagnostic.locateRange source window request.2 with
    | error e => exact ⟨e, rfl⟩
    | ok located =>
      have hvalid : source.admits request.2 = true := by
        cases hadmits : source.admits request.2 with
        | true => rfl
        | false =>
          obtain ⟨e, he⟩ := locateRange_eq_error hadmits window
          rw [hrange] at he
          cases he
      obtain ⟨other, hmem, hinvalid⟩ := h
      -- The first request is valid, so the invalid one is among the others.
      rcases List.mem_cons.1 hmem with rfl | hmem
      · rw [hvalid] at hinvalid
        cases hinvalid
      · obtain ⟨e, he⟩ := ih ⟨other, hmem, hinvalid⟩ located.2
        refine ⟨e, ?_⟩
        show (LocatedDiagnostic.locateAll source located.2 rest >>= _) = _
        rw [he]
        rfl

/-! ## Requests and their keys -/

theorem mem_requests_iff {diagnostics : List Diagnostic} {i k : Nat} {range : ByteRange} :
    (⟨i, k⟩, range) ∈ LocatedDiagnostic.requests diagnostics ↔
      ∃ d, diagnostics[i]? = some d ∧ d.locations[k]? = some range := by
  simp only [LocatedDiagnostic.requests, List.mem_flatMap, List.mem_map, Prod.exists,
    List.mk_mem_zipIdx_iff_getElem?, Prod.mk.injEq, LocatedDiagnostic.Key.mk.injEq]
  constructor
  · rintro ⟨d, _, hd, _, _, hk, ⟨rfl, rfl⟩, rfl⟩
    exact ⟨d, hd, hk⟩
  · rintro ⟨d, hd, hk⟩
    exact ⟨d, i, hd, range, k, hk, ⟨rfl, rfl⟩, rfl⟩

theorem mem_ordered_iff {diagnostics : List Diagnostic}
    {request : LocatedDiagnostic.Key × ByteRange} :
    request ∈ LocatedDiagnostic.ordered diagnostics ↔
      request ∈ LocatedDiagnostic.requests diagnostics :=
  (List.mergeSort_perm _ _).mem_iff

theorem exists_mem_ordered_iff {diagnostics : List Diagnostic} {range : ByteRange} :
    (∃ key, (key, range) ∈ LocatedDiagnostic.ordered diagnostics) ↔
      ∃ d ∈ diagnostics, range ∈ d.locations := by
  constructor
  · rintro ⟨⟨i, k⟩, hmem⟩
    obtain ⟨d, hd, hk⟩ := mem_requests_iff.1 (mem_ordered_iff.1 hmem)
    exact ⟨d, List.mem_of_getElem? hd, List.mem_of_getElem? hk⟩
  · rintro ⟨d, hd, hrange⟩
    obtain ⟨i, hi⟩ := List.mem_iff_getElem?.1 hd
    obtain ⟨k, hk⟩ := List.mem_iff_getElem?.1 hrange
    exact ⟨⟨i, k⟩, mem_ordered_iff.2 (mem_requests_iff.2 ⟨d, hi, hk⟩)⟩

theorem lookup_eq_some_of_mem {κ α : Type} [BEq κ] [LawfulBEq κ] {key : κ} {value : α}
    {table : List (κ × α)} (hmem : (key, value) ∈ table)
    (hunique : ∀ other, (key, other) ∈ table → other = value) :
    table.lookup key = some value := by
  have hsome : (table.lookup key).isSome = true := by
    rw [List.lookup_isSome_iff]
    exact ⟨(key, value), hmem, beq_self_eq_true key⟩
  obtain ⟨found, hfound⟩ := Option.isSome_iff_exists.1 hsome
  obtain ⟨front, back, htable, _⟩ := List.lookup_eq_some_iff.1 hfound
  have : (key, found) ∈ table := by simp [htable]
  rw [hfound, hunique found this]

theorem lookup_located {source : Source} {diagnostics : List Diagnostic} {i k : Nat}
    {d : Diagnostic} {range : ByteRange} (hd : diagnostics[i]? = some d)
    (hk : d.locations[k]? = some range) :
    ((LocatedDiagnostic.ordered diagnostics).map
        fun request => (request.1, locateAlone source request.2)).lookup ⟨i, k⟩ =
      some (locateAlone source range) := by
  apply lookup_eq_some_of_mem
  · exact List.mem_map.2
      ⟨(⟨i, k⟩, range), mem_ordered_iff.2 (mem_requests_iff.2 ⟨d, hd, hk⟩), rfl⟩
  · intro other hother
    obtain ⟨⟨key, range'⟩, hmem, heq⟩ := List.mem_map.1 hother
    obtain ⟨rfl, rfl⟩ := Prod.mk.inj heq
    obtain ⟨d', hd', hk'⟩ := mem_requests_iff.1 (mem_ordered_iff.1 hmem)
    obtain rfl := Option.some.inj (hd.symm.trans hd')
    rw [Option.some.inj (hk.symm.trans hk')]

theorem filterMap_range_getElem? {α β : Type} (items : List α) (f : α → β) :
    ((List.range items.length).filterMap fun k => items[k]?.map f) = items.map f := by
  induction items with
  | nil => rfl
  | cons item rest ih =>
    rw [List.length_cons, List.range_succ_eq_map, List.filterMap_cons, List.filterMap_map,
      List.map_cons, ← ih]
    rfl

/-- Looking up every location of one diagnostic gives them in the order of the diagnostic. -/
theorem filterMap_lookup_located {source : Source} {diagnostics : List Diagnostic} {i : Nat}
    {d : Diagnostic} (hd : diagnostics[i]? = some d) :
    ((List.range d.locations.length).filterMap fun k =>
        ((LocatedDiagnostic.ordered diagnostics).map
          fun request => (request.1, locateAlone source request.2)).lookup ⟨i, k⟩) =
      d.locations.map (locateAlone source) := by
  rw [← filterMap_range_getElem? d.locations]
  apply List.filterMap_congr
  intro k hk
  have hrange := List.getElem?_eq_getElem (List.mem_range.1 hk)
  rw [lookup_located hd hrange, hrange, Option.map_some]

/-! ## Diagnostics -/

theorem locate_eq_error {source : Source} {diagnostics : List Diagnostic}
    (h : ∃ d ∈ diagnostics, ∃ r ∈ d.locations, source.admits r = false) :
    ∃ e, LocatedDiagnostic.locate source diagnostics = .error e := by
  obtain ⟨d, hd, r, hr, hinvalid⟩ := h
  obtain ⟨key, hmem⟩ := exists_mem_ordered_iff.2 ⟨d, hd, hr⟩
  obtain ⟨e, he⟩ := locateAll_eq_error ⟨(key, r), hmem, hinvalid⟩ (.ofString source.text)
  refine ⟨e, ?_⟩
  unfold LocatedDiagnostic.locate
  rw [he]
  rfl

theorem locate_eq_ok {source : Source} {diagnostics : List Diagnostic}
    (h : ∀ d ∈ diagnostics, ∀ r ∈ d.locations, source.admits r = true) :
    LocatedDiagnostic.locate source diagnostics = .ok (diagnostics.map (locateEach source)) := by
  have hordered : ∀ request ∈ LocatedDiagnostic.ordered diagnostics,
      source.admits request.2 = true := by
    intro request hmem
    obtain ⟨d, hd, hr⟩ := exists_mem_ordered_iff.1 ⟨request.1, hmem⟩
    exact h d hd request.2 hr
  have hwindow : Window.ofString source.text = windowAt 0 source.text.toList 0 :=
    onLine_eq_windowAt 0 source.text
  have heach : ∀ p ∈ diagnostics.zipIdx, (⟨p.1, (List.range p.1.locations.length).filterMap
      fun k => ((LocatedDiagnostic.ordered diagnostics).map
        fun request => (request.1, locateAlone source request.2)).lookup ⟨p.2, k⟩⟩ :
      LocatedDiagnostic) = locateEach source p.1 := by
    rintro ⟨d, i⟩ hp
    unfold locateEach
    rw [filterMap_lookup_located (List.mk_mem_zipIdx_iff_getElem?.1 hp)]
  unfold LocatedDiagnostic.locate
  rw [hwindow, locateAll_windowAt hordered (Nat.zero_le _)]
  apply congrArg Except.ok
  calc
    _ = diagnostics.zipIdx.map (locateEach source ∘ Prod.fst) := List.map_congr_left heach
    _ = (diagnostics.zipIdx.map Prod.fst).map (locateEach source) := List.map_map.symm
    _ = diagnostics.map (locateEach source) := by rw [List.zipIdx_map_fst]

/-- Locating diagnostics fails if and only if one of their locations is no valid range of the
source.  Otherwise each location is located as it is alone, whatever the other ones are. -/
theorem locate_eq_map_locateEach (source : Source) (diagnostics : List Diagnostic) :
    ((∃ e, LocatedDiagnostic.locate source diagnostics = .error e) ↔
      ∃ d ∈ diagnostics, ∃ r ∈ d.locations, source.admits r = false) ∧
    ((∃ e, LocatedDiagnostic.locate source diagnostics = .error e) ∨
      LocatedDiagnostic.locate source diagnostics = .ok (diagnostics.map (locateEach source)) ∧
        ∀ d ∈ diagnostics, ∀ r ∈ d.locations,
          Covers source r (charsBefore source.text.toList r.start)
            (charsBefore source.text.toList r.stop)) := by
  by_cases h : ∃ d ∈ diagnostics, ∃ r ∈ d.locations, source.admits r = false
  · have hfails := locate_eq_error h
    exact ⟨⟨fun _ => h, fun _ => hfails⟩, Or.inl hfails⟩
  · have hvalid : ∀ d ∈ diagnostics, ∀ r ∈ d.locations, source.admits r = true := by
      intro d hd r hr
      apply Bool.of_not_eq_false
      intro hinvalid
      exact h ⟨d, hd, r, hr, hinvalid⟩
    have hok := locate_eq_ok hvalid
    refine ⟨⟨fun hfails => ?_, fun hinvalid => absurd hinvalid h⟩,
      Or.inr ⟨hok, fun d hd r hr => covers_of_admits (hvalid d hd r hr)⟩⟩
    obtain ⟨e, he⟩ := hfails
    rw [hok] at he
    cases he

end ProseTrace.Proofs.Finding.LocatedReference
