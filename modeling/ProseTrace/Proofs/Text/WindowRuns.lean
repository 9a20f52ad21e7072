import ProseTrace.Proofs.Text.CursorRuns

/-!
# Runs of a window

A window counts lines and columns by replaying what its cursor passes.  The line is exact after any
run of calls, since a line feed passed backward takes away what it added forward.  The column is
only known again once a line feed was passed forward: behind one passed backward stands a
placeholder.  So what a column is worth depends on the direction of the last line feed crossed.
-/

namespace ProseTrace.Proofs.Text.WindowRuns

open ProseTrace.Text
open ProseTrace.Proofs.Text.OffsetTable ProseTrace.Proofs.Text.Utf8Bytes
open ProseTrace.Proofs.Text.ExactPlaces ProseTrace.Proofs.Text.CursorRuns

variable {text : List Char}

/-! ## Characters between two places -/

theorem take_append_extract {m n : Nat} (h : m ≤ n) :
    text.take m ++ text.extract m n = text.take n := by
  rw [List.extract_eq_take_drop, ← List.take_add, Nat.add_sub_cancel' h]

theorem extract_eq_nil {m n : Nat} (h : n ≤ m) : text.extract m n = [] := by
  rw [List.extract_eq_take_drop, Nat.sub_eq_zero_of_le h, List.take_zero]

theorem exists_getElem?_of_mem_extract {m n : Nat} {c : Char} (h : c ∈ text.extract m n) :
    ∃ k, m ≤ k ∧ k < n ∧ text[k]? = some c := by
  rw [List.extract_eq_take_drop] at h
  obtain ⟨i, hi⟩ := List.mem_iff_getElem?.1 h
  rw [List.getElem?_take, List.getElem?_drop] at hi
  obtain ⟨hlt, hat⟩ := Option.ite_none_right_eq_some.1 hi
  exact ⟨m + i, by omega, by omega, hat⟩

theorem columnBehind_append (a b : List Char) :
    columnBehind (a ++ b) = if '\n' ∈ b then columnBehind b else columnBehind a + b.length := by
  induction b using List.reverseRecOn with
  | nil => simp
  | append_singleton b c ih =>
    rw [← List.append_assoc, columnBehind_concat, columnBehind_concat, ih]
    by_cases hc : c = '\n'
    · simp [hc]
    · have hmem : '\n' ∈ b ++ [c] ↔ '\n' ∈ b := by simp [Ne.symm hc]
      simp only [if_neg hc, hmem, List.length_append, List.length_singleton]
      split <;> omega

/-! ## Replaying them -/

theorem foldl_after_eq (counts : Window.Counts) (chars : List Char) :
    chars.foldl Window.Counts.after counts =
      ⟨counts.line + chars.count '\n',
        if '\n' ∈ chars then columnBehind chars else counts.column + chars.length⟩ := by
  induction chars using List.reverseRecOn with
  | nil => simp
  | append_singleton chars c ih =>
    rw [List.foldl_append, ih, columnBehind_concat, List.count_append, List.foldl_cons,
      List.foldl_nil, Window.Counts.after]
    by_cases hc : c = '\n'
    · subst hc
      simp [Int.add_assoc]
    · have hmem : '\n' ∈ chars ++ [c] ↔ '\n' ∈ chars := by simp [Ne.symm hc]
      simp only [beq_iff_eq, if_neg hc, hmem, List.length_append, List.length_singleton]
      split <;> simp [hc, Nat.add_assoc]

theorem line_foldl_before (counts : Window.Counts) (chars : List Char) :
    (chars.foldl Window.Counts.before counts).line = counts.line - chars.count '\n' := by
  induction chars generalizing counts with
  | nil => simp
  | cons c rest ih =>
    rw [List.foldl_cons, ih, Window.Counts.before, List.count_cons]
    by_cases hc : c = '\n'
    · simp only [hc, beq_self_eq_true, if_true]
      omega
    · simp [hc]

theorem column_foldl_before {counts : Window.Counts} {chars : List Char} (h : '\n' ∉ chars) :
    (chars.foldl Window.Counts.before counts).column = counts.column - chars.length := by
  induction chars generalizing counts with
  | nil => simp
  | cons c rest ih =>
    obtain ⟨hc, hrest⟩ := not_or.1 (mt List.mem_cons.2 h)
    rw [List.foldl_cons, ih hrest, Window.Counts.before, List.length_cons]
    simp only [beq_iff_eq, if_neg (Ne.symm hc)]
    omega

/-- What a move back replays is what lies between the two places, nearest first. -/
theorem take_passed_cursorAt {m n : Nat} (hmn : m ≤ n) (hn : n ≤ text.length) :
    (cursorAt text n).passed.take (n - m) = (text.extract m n).reverse := by
  have hlength : (text.take n).length - (n - m) = m := by
    rw [List.length_take, Nat.min_eq_left hn]
    omega
  rw [cursorAt, List.take_reverse, hlength, List.drop_take, List.extract_eq_take_drop]

section

variable {w : Window} {m n : Nat}

theorem follow_forward (hw : w.cursor = cursorAt text n) (hnm : n ≤ m) (hm : m ≤ text.length) :
    w.follow (cursorAt text m) =
      ⟨cursorAt text m, w.line + (text.extract n m).count '\n',
        if '\n' ∈ text.extract n m then columnBehind (text.extract n m)
        else w.column + (text.extract n m).length⟩ := by
  have hn : n ≤ text.length := Nat.le_trans hnm hm
  have hback : n - m = 0 := by omega
  have hahead : (cursorAt text n).ahead.take (m - n) = text.extract n m :=
    List.extract_eq_take_drop.symm
  simp only [Window.follow, hw, charIndex_cursorAt hn, charIndex_cursorAt hm, hback,
    List.take_zero, List.foldl_nil, hahead, foldl_after_eq]

theorem follow_backward (hw : w.cursor = cursorAt text n) (hmn : m ≤ n) (hn : n ≤ text.length) :
    w.follow (cursorAt text m) =
      ⟨cursorAt text m,
        ((text.extract m n).reverse.foldl Window.Counts.before ⟨w.line, w.column⟩).line,
        ((text.extract m n).reverse.foldl Window.Counts.before ⟨w.line, w.column⟩).column⟩ := by
  have hm : m ≤ text.length := Nat.le_trans hmn hn
  have hahead : m - n = 0 := by omega
  simp only [Window.follow, hw, charIndex_cursorAt hn, charIndex_cursorAt hm, hahead,
    List.take_zero, List.foldl_nil, take_passed_cursorAt hmn hn]

/-- The line stays the number of line feeds before the window, whichever way it moves. -/
theorem line_follow {line : Int} (hw : w.cursor = cursorAt text n)
    (hline : w.line = line + (text.take n).count '\n') (hn : n ≤ text.length)
    (hm : m ≤ text.length) :
    (w.follow (cursorAt text m)).line = line + (text.take m).count '\n' := by
  rcases Nat.le_total n m with hnm | hmn
  · rw [follow_forward hw hnm hm, ← take_append_extract hnm, List.count_append, hline]
    push_cast
    exact Int.add_assoc _ _ _
  · rw [follow_backward hw hmn hn]
    simp only [line_foldl_before, List.count_reverse]
    rw [hline, ← take_append_extract hmn, List.count_append]
    omega

end

/-! ## Crossing line feeds -/

inductive Direction where
  | forward
  | backward
  deriving DecidableEq

/-- The direction in which a move from the character `m` to the character `n` crosses a line feed. -/
def crossing (text : List Char) (m n : Nat) : Option Direction :=
  if '\n' ∈ text.extract m n then some .forward
  else if '\n' ∈ text.extract n m then some .backward
  else none

/-- The column is the number of characters behind the last line feed. -/
def IsExact (text : List Char) (w : Window) : Prop :=
  w.column = columnBehind (text.take w.cursor.charIndex)

/-- A move keeps a column exact unless it crosses a line feed backward, and makes it exact if it
crosses one forward. -/
theorem isExact_follow {w : Window} {n m : Nat} (hw : w.cursor = cursorAt text n)
    (hn : n ≤ text.length) (hm : m ≤ text.length) (hcross : crossing text n m ≠ some .backward)
    (hexact : crossing text n m = none → IsExact text w) :
    IsExact text (w.follow (cursorAt text m)) := by
  have hcolumn : crossing text n m = none → w.column = columnBehind (text.take n) := by
    intro hnone
    have h := hexact hnone
    rwa [IsExact, hw, charIndex_cursorAt hn] at h
  unfold crossing at hcross hcolumn
  rcases Nat.le_total n m with hnm | hmn
  · rw [follow_forward hw hnm hm, IsExact, charIndex_cursorAt hm, ← take_append_extract hnm,
      columnBehind_append]
    have hempty : text.extract m n = [] := extract_eq_nil hnm
    by_cases hfeed : '\n' ∈ text.extract n m
    · simp only [if_pos hfeed]
    · simp only [if_neg hfeed]
      rw [hcolumn (by simp [hfeed, hempty])]
  · rw [follow_backward hw hmn hn, IsExact, charIndex_cursorAt hm]
    have hempty : text.extract n m = [] := extract_eq_nil hmn
    have hfeed : '\n' ∉ text.extract m n := by
      intro hfeed
      exact hcross (by simp [hempty, hfeed])
    have hbefore := hcolumn (by simp [hempty, hfeed])
    rw [← take_append_extract hmn, columnBehind_append, if_neg hfeed] at hbefore
    rw [column_foldl_before (by simpa using hfeed)]
    simp only [hbefore, List.length_reverse]
    omega

theorem newline_not_mem_of_leadsTo {start target stop : Nat} {answer : Option Nat}
    (h : LeadsTo text start target true answer stop) :
    '\n' ∉ text.extract start stop ∧ '\n' ∉ text.extract stop start := by
  have hline : ∀ {k : Nat}, text[k]? = some '\n' → IsLineEndAt text k := by
    intro k hk
    exact ⟨'\n', hk, Or.inl rfl⟩
  rcases Nat.lt_or_ge target start with hlt | hge
  · have hgreatest := h.backward rfl hlt
    constructor
    · intro hmem
      obtain ⟨k, hk, hk', _⟩ := exists_getElem?_of_mem_extract hmem
      rcases hgreatest.1 with rfl | ⟨i, hi, _, rfl⟩ <;> omega
    · intro hmem
      obtain ⟨k, hk, hk', hfeed⟩ := exists_getElem?_of_mem_extract hmem
      have := hgreatest.2 (Or.inr ⟨k, hk', hline hfeed, rfl⟩)
      omega
  · have hleast := h.forward rfl hge
    constructor
    · intro hmem
      obtain ⟨k, hk, hk', hfeed⟩ := exists_getElem?_of_mem_extract hmem
      have := hleast.2 (Or.inr (Or.inr ⟨hk, hline hfeed⟩))
      omega
    · intro hmem
      obtain ⟨k, hk, hk', hfeed⟩ := exists_getElem?_of_mem_extract hmem
      have hlength := (hline hfeed).lt_length
      rcases hleast.1 with rfl | rfl | ⟨hle, _⟩ <;> omega

/-! ## One call -/

theorem stop_eq_length_of_none {start target stop : Nat} {halt : Bool}
    (h : LeadsTo text start target halt none stop) (hstart : start ≤ text.length) :
    stop = text.length := by
  obtain ⟨hbeyond, hfree⟩ := h.none_iff.1 rfl
  cases halt with
  | false =>
    have := h.free rfl
    omega
  | true =>
    have hleast := h.forward rfl (by omega)
    have hle := hleast.2 (Or.inr (Or.inl rfl))
    rcases hleast.1 with rfl | hend | ⟨hahead, hline⟩
    · omega
    · exact hend
    · exact absurd ⟨rfl, stop, hahead, hline⟩ hfree

/-- The offset reported is that of the place reached, also beyond the text. -/
theorem getD_eq_bytesBefore {start target stop : Nat} {halt : Bool} {answer : Option Nat}
    (h : LeadsTo text start target halt answer stop) (hstart : start ≤ text.length) :
    answer.getD (measure Char.utf8Size text) = bytesBefore text stop := by
  cases answer with
  | some offset => exact h.some_eq offset rfl
  | none =>
    rw [stop_eq_length_of_none h hstart, bytesBefore_eq_measure, List.take_length]
    rfl

/-- The place of a window: the bytes before its cursor, its line and its column. -/
def placeOf (text : List Char) (w : Window) : Position :=
  ⟨bytesBefore text w.cursor.charIndex, w.line, w.column⟩

theorem cursor_follow (w : Window) (c : Cursor) : (w.follow c).cursor = c := rfl

theorem moveTo_eq {w : Window} {n : Nat} (hw : w.cursor = cursorAt text n) (hn : n ≤ text.length)
    (target : Nat) (halt : Bool) :
    w.moveTo target halt =
      (placeOf text (w.follow (cursorAt text (destination text n target halt))),
        w.follow (cursorAt text (destination text n target halt))) := by
  obtain ⟨answer, hseek, hleads⟩ := seekIndex_leadsTo hn target halt
  have hdest := destination_le hn target halt
  simp only [Window.moveTo, hw, hseek, chars_cursorAt, getD_eq_bytesBefore hleads hn, placeOf,
    cursor_follow, charIndex_cursorAt hdest]

theorem line_follow_of_halting {w : Window} {n : Nat} (hw : w.cursor = cursorAt text n)
    (hn : n ≤ text.length) (target : Nat) :
    (w.follow (cursorAt text (destination text n target true))).line = w.line := by
  obtain ⟨answer, _, hleads⟩ := seekIndex_leadsTo hn target true
  obtain ⟨hahead, hbehind⟩ := newline_not_mem_of_leadsTo hleads
  have hdest := destination_le hn target true
  generalize destination text n target true = m at hahead hbehind hdest
  rcases Nat.le_total n m with hnm | hmn
  · rw [follow_forward hw hnm hdest, List.count_eq_zero.2 hahead]
    exact Int.add_zero _
  · rw [follow_backward hw hmn hn]
    simp only [line_foldl_before, List.count_reverse, List.count_eq_zero.2 hbehind]
    exact Int.sub_zero _

/-! ## Runs -/

/-- The window behind a call; a call that is refused leaves it as it was. -/
def stepWindow (w : Window) (q : Query) : Window :=
  match w.seek q.target q.haltAtLineEnd with
  | .ok (_, next) => next
  | .error _ => w

/-- The window behind a run of calls on a text whose first line is `line`. -/
def windowAfter (line : Int) (text : String) (run : List Query) : Window :=
  run.foldl stepWindow (.onLine line text)

/-- The direction in which a run from a window crosses its last line feed, if it crosses any. -/
def lastCrossing (text : List Char) : Window → List Query → Option Direction
  | _, [] => none
  | w, q :: rest =>
    (lastCrossing text (stepWindow w q) rest).or
      (crossing text w.cursor.charIndex (stepWindow w q).cursor.charIndex)

/-- The cursor of the window is at an exact place, and its line is exact. -/
structure IsTracked (line : Int) (text : List Char) (w : Window) : Prop where
  index_le : w.cursor.charIndex ≤ text.length
  cursor_eq : w.cursor = cursorAt text w.cursor.charIndex
  line_eq : w.line = line + (text.take w.cursor.charIndex).count '\n'

theorem isTracked_onLine (line : Int) (text : String) :
    IsTracked line text.toList (.onLine line text) := by
  rw [onLine_eq_windowAt]
  have hindex : (windowAt line text.toList 0).cursor.charIndex = 0 :=
    charIndex_cursorAt (Nat.zero_le _)
  refine ⟨?_, ?_, ?_⟩
  · rw [hindex]
    exact Nat.zero_le _
  · rw [hindex]
    rfl
  · rw [hindex]
    rfl

theorem windowSeek_eq_error {target : Int} (h : target < 0) (w : Window) (halt : Bool) :
    w.seek target halt = .error {} := by
  rw [Window.seek, if_pos h]

theorem windowSeek_eq_ok {target : Int} (h : 0 ≤ target) (w : Window) (halt : Bool) :
    w.seek target halt = .ok (w.moveTo target.toNat halt) := by
  rw [Window.seek, if_neg (by omega)]

theorem stepWindow_eq_self {q : Query} (h : q.target < 0) (w : Window) : stepWindow w q = w := by
  rw [stepWindow, windowSeek_eq_error h]

theorem stepWindow_eq_follow {line : Int} {w : Window} (hw : IsTracked line text w) {q : Query}
    (h : 0 ≤ q.target) :
    stepWindow w q = w.follow (cursorAt text
      (destination text w.cursor.charIndex q.target.toNat q.haltAtLineEnd)) := by
  rw [stepWindow, windowSeek_eq_ok h, moveTo_eq hw.cursor_eq hw.index_le]

theorem cursor_stepWindow (w : Window) (q : Query) :
    (stepWindow w q).cursor = step w.cursor q := by
  by_cases h : q.target < 0
  · rw [stepWindow_eq_self h, step_eq_self h]
  · rw [stepWindow, windowSeek_eq_ok (by omega), step_eq_seekIndex (by omega)]
    rfl

theorem isTracked_stepWindow {line : Int} {w : Window} (hw : IsTracked line text w) (q : Query) :
    IsTracked line text (stepWindow w q) := by
  by_cases h : q.target < 0
  · rwa [stepWindow_eq_self h]
  · have hdest := destination_le hw.index_le q.target.toNat q.haltAtLineEnd
    rw [stepWindow_eq_follow hw (by omega)]
    generalize destination text w.cursor.charIndex q.target.toNat q.haltAtLineEnd = m at hdest
    refine ⟨?_, ?_, ?_⟩
    · rw [cursor_follow, charIndex_cursorAt hdest]
      exact hdest
    · rw [cursor_follow, charIndex_cursorAt hdest]
    · rw [cursor_follow, charIndex_cursorAt hdest,
        line_follow hw.cursor_eq hw.line_eq hw.index_le hdest]

theorem isExact_stepWindow {line : Int} {w : Window} (hw : IsTracked line text w) {q : Query}
    (hcross : crossing text w.cursor.charIndex (stepWindow w q).cursor.charIndex ≠ some .backward)
    (hexact : crossing text w.cursor.charIndex (stepWindow w q).cursor.charIndex = none →
      IsExact text w) :
    IsExact text (stepWindow w q) := by
  by_cases h : q.target < 0
  · rw [stepWindow_eq_self h] at hcross hexact ⊢
    apply hexact
    have hsame : text.extract w.cursor.charIndex w.cursor.charIndex = [] :=
      extract_eq_nil (Nat.le_refl _)
    simp [crossing, hsame]
  · have hdest := destination_le hw.index_le q.target.toNat q.haltAtLineEnd
    rw [stepWindow_eq_follow hw (by omega)] at hcross hexact ⊢
    rw [cursor_follow, charIndex_cursorAt hdest] at hcross hexact
    exact isExact_follow hw.cursor_eq hw.index_le hdest hcross hexact

theorem isTracked_foldl {line : Int} {w : Window} (hw : IsTracked line text w) (run : List Query) :
    IsTracked line text (run.foldl stepWindow w) := by
  induction run generalizing w with
  | nil => exact hw
  | cons q rest ih => exact ih (isTracked_stepWindow hw q)

/-- After a run the column is exact if the last line feed was crossed forward, or if none was
crossed and the column was exact before. -/
theorem isExact_foldl {line : Int} {w : Window} (hw : IsTracked line text w) {run : List Query}
    (hlast : lastCrossing text w run ≠ some .backward)
    (hexact : lastCrossing text w run = none → IsExact text w) :
    IsExact text (run.foldl stepWindow w) := by
  induction run generalizing w with
  | nil => exact hexact rfl
  | cons q rest ih =>
    rw [lastCrossing] at hlast hexact
    -- The rest of the run decides, unless it crosses nothing; then the first call does.
    apply ih (isTracked_stepWindow hw q)
    · intro hback
      exact hlast (by rw [hback, Option.some_or])
    · intro hrest
      rw [hrest, Option.none_or] at hlast hexact
      exact isExact_stepWindow hw hlast hexact

theorem cursor_windowAfter (line : Int) (text : String) (run : List Query) :
    (windowAfter line text run).cursor = cursorAfter text run := by
  have hrun : ∀ w : Window, (run.foldl stepWindow w).cursor = run.foldl step w.cursor := by
    induction run with
    | nil => exact fun w => rfl
    | cons q rest ih =>
      intro w
      rw [List.foldl_cons, List.foldl_cons, ih, cursor_stepWindow]
  exact hrun (.onLine line text)

theorem windowAfter_concat (line : Int) (text : String) (run : List Query) (q : Query) :
    windowAfter line text (run ++ [q]) = stepWindow (windowAfter line text run) q := by
  rw [windowAfter, windowAfter, List.foldl_append]
  rfl

/-- Behind any run of calls the line of a window is exact, and so is the column unless the last line
feed was crossed backward.  The next call is refused if its target is negative, and changes nothing
then; otherwise it reports the place of the window's cursor, and one that halts at line ends stays
on its line. -/
theorem seek_windowAfter (line : Int) (text : String) (run : List Query) (target : Int)
    (halt : Bool) :
    (windowAfter line text run).cursor = cursorAfter text run ∧
    (windowAfter line text run).line =
      line + (text.toList.take (windowAfter line text run).cursor.charIndex).count '\n' ∧
    (0 : Int) ≤ (windowAfter line text run).column ∧
    (lastCrossing text.toList (.onLine line text) run ≠ some .backward →
      (windowAfter line text run).column =
        columnBehind (text.toList.take (windowAfter line text run).cursor.charIndex)) ∧
    (target < 0 → (windowAfter line text run).seek target halt = .error {} ∧
      windowAfter line text (run ++ [⟨target, halt⟩]) = windowAfter line text run) ∧
    (0 ≤ target → (windowAfter line text run).seek target halt =
        .ok (placeOf text.toList (windowAfter line text (run ++ [⟨target, halt⟩])),
          windowAfter line text (run ++ [⟨target, halt⟩])) ∧
      (halt = true → (windowAfter line text (run ++ [⟨target, halt⟩])).line =
        (windowAfter line text run).line)) := by
  have hstart := isTracked_onLine line text
  have htracked : IsTracked line text.toList (windowAfter line text run) :=
    isTracked_foldl hstart run
  refine ⟨cursor_windowAfter line text run, htracked.line_eq, Int.natCast_nonneg _, ?_, ?_, ?_⟩
  · intro hlast
    refine isExact_foldl hstart hlast fun _ => ?_
    rw [onLine_eq_windowAt]
    rfl
  · intro h
    exact ⟨windowSeek_eq_error h _ halt, by rw [windowAfter_concat, stepWindow_eq_self h]⟩
  · intro h
    rw [windowAfter_concat, stepWindow_eq_follow htracked h, windowSeek_eq_ok h,
      moveTo_eq htracked.cursor_eq htracked.index_le]
    refine ⟨rfl, ?_⟩
    rintro rfl
    exact line_follow_of_halting htracked.cursor_eq htracked.index_le target.toNat

-- The line feed is in column 2; reached backward, its column is the placeholder.
example : (windowAfter 0 "ab\ncd" [⟨4, false⟩, ⟨2, false⟩]).column = 1 := by decide +kernel

end ProseTrace.Proofs.Text.WindowRuns
