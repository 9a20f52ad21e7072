import ProseTrace.Proofs.Text.WindowRuns

/-!
# Windows anchored in the middle of a text

A window may be laid over the rest of a text alone, if it is told the line on which the rest begins.
It then answers as a window over the whole text that has moved there, whatever both are asked: the
walks of the two pass the same characters.  Where they meet a line ends, so that a walk back through
the whole text would halt there as well.
-/

namespace ProseTrace.Proofs.Text.AnchoredWindows

open ProseTrace.Text
open ProseTrace.Proofs.Text.OffsetTable ProseTrace.Proofs.Text.Utf8Bytes
open ProseTrace.Proofs.Text.ExactPlaces ProseTrace.Proofs.Text.CursorRuns
open ProseTrace.Proofs.Text.WindowRuns

variable {a b : List Char}

def EndsLine (text : List Char) : Prop := text = [] ∨ ∃ front, text = front ++ ['\n']

/-! ## More text in front -/

def shift (a : List Char) (c : Cursor) : Cursor :=
  ⟨c.passed ++ a.reverse, c.ahead, measure Char.utf8Size a + c.byteIndex⟩

def anchor (a : List Char) (w : Window) : Window := ⟨shift a w.cursor, w.line, w.column⟩

def move (bytes : Nat) (p : Position) : Position := ⟨bytes + p.byte, p.line, p.column⟩

theorem charIndex_shift (a : List Char) (c : Cursor) :
    (shift a c).charIndex = a.length + c.charIndex := by
  rw [Cursor.charIndex, Cursor.charIndex, shift, List.length_append, List.length_reverse]
  omega

theorem cursorAt_append (a b : List Char) (n : Nat) :
    cursorAt (a ++ b) (a.length + n) = shift a (cursorAt b n) := by
  rw [cursorAt, List.take_length_add_append, List.drop_length_add_append, List.reverse_append,
    measure_append]
  rfl

theorem follow_anchor (a : List Char) (w : Window) (c : Cursor) :
    (anchor a w).follow (shift a c) = anchor a (w.follow c) := by
  have hahead : (shift a c).charIndex - (shift a w.cursor).charIndex =
      c.charIndex - w.cursor.charIndex := by
    rw [charIndex_shift, charIndex_shift]
    omega
  have hback : (shift a w.cursor).charIndex - (shift a c).charIndex =
      w.cursor.charIndex - c.charIndex := by
    rw [charIndex_shift, charIndex_shift]
    omega
  have hpassed : (shift a w.cursor).passed.take (w.cursor.charIndex - c.charIndex) =
      w.cursor.passed.take (w.cursor.charIndex - c.charIndex) :=
    List.take_append_of_le_length (Nat.sub_le _ _)
  simp only [Window.follow, anchor, hahead, hback, hpassed]
  rfl

/-! ## Where walks end -/

theorem lineEndFrom_append (a b : List Char) (n : Nat) :
    lineEndFrom (a ++ b) (a.length + n) = a.length + lineEndFrom b n := by
  rw [lineEndFrom, lineEndFrom, List.drop_length_add_append, Nat.add_assoc]

theorem lineStartBefore_append (ha : EndsLine a) {n : Nat} (hn : n ≤ b.length) :
    lineStartBefore (a ++ b) (a.length + n) = a.length + lineStartBefore b n := by
  have hseam : a.reverse.takeWhile (fun c => !isLineEnd c) = [] := by
    rcases ha with rfl | ⟨front, rfl⟩
    · rfl
    · rw [List.reverse_append]
      rfl
  have hrun : ((b.take n).reverse ++ a.reverse).takeWhile (fun c => !isLineEnd c) =
      (b.take n).reverse.takeWhile fun c => !isLineEnd c := by
    rw [List.takeWhile_append, hseam, List.append_nil]
    split
    next hall => exact (List.IsPrefix.eq_of_length (List.takeWhile_prefix _) hall).symm
    next => rfl
  have hle : ((b.take n).reverse.takeWhile fun c => !isLineEnd c).length ≤ n := by
    have hprefix := (List.takeWhile_prefix (l := (b.take n).reverse)
      fun c => !isLineEnd c).length_le
    rw [List.length_reverse, List.length_take] at hprefix
    omega
  rw [lineStartBefore, lineStartBefore, List.take_length_add_append, List.reverse_append, hrun]
  omega

theorem destination_append (ha : EndsLine a) {n : Nat} (hn : n ≤ b.length) (target : Nat)
    (halt : Bool) :
    destination (a ++ b) (a.length + n) (a.length + target) halt =
      a.length + destination b n target halt := by
  unfold destination
  rw [lineEndFrom_append, lineStartBefore_append ha hn, List.length_append]
  simp only [Nat.add_le_add_iff_left]
  split
  · split <;> omega
  · omega

/-! ## One call -/

theorem placeOf_anchor (a b : List Char) (w : Window) :
    placeOf (a ++ b) (anchor a w) = move (measure Char.utf8Size a) (placeOf b w) := by
  have hindex : (anchor a w).cursor.charIndex = a.length + w.cursor.charIndex :=
    charIndex_shift a w.cursor
  have hbytes : bytesBefore (a ++ b) (a.length + w.cursor.charIndex) =
      measure Char.utf8Size a + bytesBefore b w.cursor.charIndex := by
    rw [bytesBefore_eq_measure, bytesBefore_eq_measure, List.take_length_add_append,
      measure_append]
  rw [placeOf, hindex, hbytes]
  rfl

theorem moveTo_anchor (ha : EndsLine a) {line : Int} {w : Window} (hw : IsTracked line b w)
    (target : Nat) (halt : Bool) :
    (anchor a w).moveTo (a.length + target) halt =
      (move (measure Char.utf8Size a) (w.moveTo target halt).1,
        anchor a (w.moveTo target halt).2) := by
  have hanchor : (anchor a w).cursor = cursorAt (a ++ b) (a.length + w.cursor.charIndex) := by
    rw [cursorAt_append, ← hw.cursor_eq]
    rfl
  have hindex : a.length + w.cursor.charIndex ≤ (a ++ b).length := by
    rw [List.length_append]
    exact Nat.add_le_add_left hw.index_le _
  rw [moveTo_eq hanchor hindex, moveTo_eq hw.cursor_eq hw.index_le,
    destination_append ha hw.index_le, cursorAt_append, follow_anchor, placeOf_anchor]

theorem seek_anchor (ha : EndsLine a) {line : Int} {w : Window} (hw : IsTracked line b w)
    {target : Int} (htarget : 0 ≤ target) (halt : Bool) :
    (anchor a w).seek (a.length + target) halt =
      (w.seek target halt).map
        (Prod.map (move (measure Char.utf8Size a)) (anchor a)) := by
  have hsum : (a.length + target).toNat = a.length + target.toNat := by omega
  rw [windowSeek_eq_ok (by omega), windowSeek_eq_ok htarget, hsum, moveTo_anchor ha hw]
  rfl

theorem stepWindow_anchor (ha : EndsLine a) {line : Int} {w : Window} (hw : IsTracked line b w)
    {q : Query} (hq : 0 ≤ q.target) :
    stepWindow (anchor a w) ⟨a.length + q.target, q.haltAtLineEnd⟩ = anchor a (stepWindow w q) := by
  rw [stepWindow, stepWindow, seek_anchor ha hw hq, windowSeek_eq_ok hq]
  rfl

/-! ## Runs -/

def answers (w : Window) : List Query → List (Except Cursor.NegativeIndex Position)
  | [] => []
  | q :: rest => (w.seek q.target q.haltAtLineEnd).map Prod.fst :: answers (stepWindow w q) rest

theorem answers_anchor (ha : EndsLine a) {line : Int} {w : Window} (hw : IsTracked line b w)
    {queries : List Query} (hqueries : ∀ q ∈ queries, 0 ≤ q.target) :
    answers (anchor a w) (queries.map fun q => ⟨a.length + q.target, q.haltAtLineEnd⟩) =
      (answers w queries).map (Except.map (move (measure Char.utf8Size a))) := by
  induction queries generalizing w with
  | nil => rfl
  | cons q rest ih =>
    obtain ⟨hq, hrest⟩ := List.forall_mem_cons.1 hqueries
    rw [List.map_cons, answers, answers, List.map_cons, stepWindow_anchor ha hw hq,
      ih (isTracked_stepWindow hw q) hrest, seek_anchor ha hw hq, windowSeek_eq_ok hq]
    rfl

theorem exists_ok_of_mem_answers {w : Window} {queries : List Query}
    (hqueries : ∀ q ∈ queries, 0 ≤ q.target) :
    ∀ answer ∈ answers w queries, ∃ place, answer = .ok place := by
  induction queries generalizing w with
  | nil => simp [answers]
  | cons q rest ih =>
    obtain ⟨hq, hrest⟩ := List.forall_mem_cons.1 hqueries
    rw [answers, windowSeek_eq_ok hq]
    exact List.forall_mem_cons.2 ⟨⟨_, rfl⟩, ih hrest⟩

theorem columnBehind_eq_zero (ha : EndsLine a) : columnBehind a = 0 := by
  rcases ha with rfl | ⟨front, rfl⟩
  · rfl
  · rw [columnBehind_concat, if_pos rfl]

/-- A window that moves to the end of whole lines becomes one over the rest, told its line. -/
theorem seek_length_append {a : String} (ha : EndsLine a.toList) (b : String) :
    (Window.ofString (a ++ b)).seek a.length false =
      .ok (⟨a.utf8ByteSize, a.toList.count '\n', 0⟩,
        anchor a.toList (.onLine (a.toList.count '\n') b)) := by
  have hstart : Window.ofString (a ++ b) = windowAt 0 (a.toList ++ b.toList) 0 := by
    rw [← String.toList_append]
    exact onLine_eq_windowAt 0 (a ++ b)
  have hlength : a.toList.length ≤ (a.toList ++ b.toList).length := by
    rw [List.length_append]
    omega
  have hmove := moveTo_windowAt 0 (Nat.zero_le _) hlength false
  have hreached : reached (a.toList ++ b.toList) 0 a.toList.length false = a.toList.length := rfl
  have hcursor := cursorAt_append a.toList b.toList 0
  rw [Nat.add_zero] at hcursor
  rw [hstart, windowSeek_eq_ok (Int.natCast_nonneg _), Int.toNat_natCast, ← String.length_toList,
    hmove, hreached, placeAt, windowAt, List.take_left, hcursor, columnBehind_eq_zero ha,
    Int.zero_add, utf8ByteSize_eq_measure]
  rfl

/-- A window that moved to the end of whole lines and a window over the rest, told its line, answer
alike from then on, whatever both are asked: with the same line and column, and with byte offsets
that differ by the bytes of those lines. -/
theorem answers_eq_map_move (a b : String) (ha : a = "" ∨ ∃ front, a = front ++ "\n")
    (queries : List Query) (hqueries : ∀ q ∈ queries, 0 ≤ q.target) :
    ∃ w, (Window.ofString (a ++ b)).seek a.length false =
        .ok (⟨a.utf8ByteSize, a.toList.count '\n', 0⟩, w) ∧
      (∀ answer ∈ answers (.onLine (a.toList.count '\n') b) queries, ∃ p, answer = .ok p) ∧
      answers w (queries.map fun q => ⟨a.length + q.target, q.haltAtLineEnd⟩) =
        (answers (.onLine (a.toList.count '\n') b) queries).map
          (Except.map (move a.utf8ByteSize)) := by
  have hlines : EndsLine a.toList := by
    rcases ha with rfl | ⟨front, rfl⟩
    · exact Or.inl rfl
    · exact Or.inr ⟨front.toList, String.toList_append⟩
  have htracked := isTracked_onLine (a.toList.count '\n') b
  refine ⟨_, seek_length_append hlines b, exists_ok_of_mem_answers hqueries, ?_⟩
  rw [utf8ByteSize_eq_measure, ← String.length_toList]
  exact answers_anchor hlines htracked hqueries

/-- Behind a line with a wide letter: beyond the end, back over a line feed to the placeholder
column, and back and forth between line ends. -/
theorem answers_behind_wide_letter :
    (∀ q ∈ [(⟨9, false⟩ : Query), ⟨2, false⟩, ⟨0, true⟩, ⟨9, true⟩], 0 ≤ q.target) ∧
    ∃ w, (Window.ofString "é\nab\ncd").seek 2 false = .ok (⟨3, 1, 0⟩, w) ∧
      answers w [⟨11, false⟩, ⟨4, false⟩, ⟨2, true⟩, ⟨11, true⟩] =
        [.ok ⟨8, 2, 2⟩, .ok ⟨5, 1, 1⟩, .ok ⟨3, 1, 0⟩, .ok ⟨5, 1, 2⟩] := by
  have hqueries : ∀ q ∈ [(⟨9, false⟩ : Query), ⟨2, false⟩, ⟨0, true⟩, ⟨9, true⟩],
      0 ≤ q.target := by
    simp
  obtain ⟨w, hseek, _, hanswers⟩ :=
    answers_eq_map_move "é\n" "ab\ncd" (Or.inr ⟨"é", rfl⟩) _ hqueries
  refine ⟨hqueries, w, hseek, hanswers.trans ?_⟩
  decide +kernel

end ProseTrace.Proofs.Text.AnchoredWindows
