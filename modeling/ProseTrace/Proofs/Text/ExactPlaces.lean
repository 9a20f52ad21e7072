import ProseTrace.Proofs.Text.OffsetTable
import ProseTrace.Text.Window
import Mathlib.Data.List.Induction

/-!
# Exact places of cursors and windows

A cursor that stands where it should is told by the text and a character index alone, and so is a
window whose line and column are those of the characters before it.  Walking forward leads from one
such place to another.
-/

namespace ProseTrace.Proofs.Text.ExactPlaces

open ProseTrace.Text
open ProseTrace.Proofs.Text.OffsetTable

variable {text : List Char}

/-! ## Cursors -/

/-- The cursor in front of the character `n` of a text. -/
def cursorAt (text : List Char) (n : Nat) : Cursor :=
  ⟨(text.take n).reverse, text.drop n, measure Char.utf8Size (text.take n)⟩

/-- The first line end at or behind the character `n`, or the end of the text. -/
def lineEndFrom (text : List Char) (n : Nat) : Nat :=
  n + ((text.drop n).takeWhile fun c => !isLineEnd c).length

theorem ofString_eq_cursorAt (text : String) : Cursor.ofString text = cursorAt text.toList 0 := rfl

theorem charIndex_cursorAt {n : Nat} (hn : n ≤ text.length) : (cursorAt text n).charIndex = n := by
  rw [Cursor.charIndex, cursorAt, List.length_reverse, List.length_take, Nat.min_eq_left hn]

theorem next_cursorAt {n : Nat} (hn : n < text.length) :
    (cursorAt text n).next = cursorAt text (n + 1) := by
  have hdrop : text.drop n = text[n] :: text.drop (n + 1) := List.drop_eq_getElem_cons hn
  have htake : text.take (n + 1) = text.take n ++ [text[n]] := List.take_succ_eq_append_getElem hn
  rw [cursorAt, cursorAt, htake, hdrop, measure_append, List.reverse_append]
  rfl

theorem lineEndFrom_eq_self {n : Nat} (hn : n < text.length) (h : isLineEnd text[n] = true) :
    lineEndFrom text n = n := by
  rw [lineEndFrom, List.drop_eq_getElem_cons hn, List.takeWhile_cons_of_neg (by simp [h])]
  rfl

theorem lineEndFrom_succ {n : Nat} (hn : n < text.length) (h : isLineEnd text[n] = false) :
    lineEndFrom text n = lineEndFrom text (n + 1) := by
  rw [lineEndFrom, lineEndFrom, List.drop_eq_getElem_cons hn,
    List.takeWhile_cons_of_pos (by simp [h]), List.length_cons]
  omega

/-- A walk over `k` characters forward ends where it should, or at the end of the text. -/
theorem forward_cursorAt {n : Nat} (k : Nat) (hn : n ≤ text.length) :
    Cursor.forward false k (cursorAt text n) = ⟨false, cursorAt text (min (n + k) text.length)⟩ := by
  induction k generalizing n with
  | zero => rw [Cursor.forward, Nat.add_zero, Nat.min_eq_left hn]
  | succ k ih =>
    rw [Cursor.forward]
    rcases Nat.lt_or_eq_of_le hn with hlt | rfl
    · have hahead : (cursorAt text n).ahead = text[n] :: text.drop (n + 1) :=
        List.drop_eq_getElem_cons hlt
      rw [hahead]
      simp only [Bool.false_and, Bool.false_eq_true, if_false]
      rw [next_cursorAt hlt, ih hlt, Nat.succ_add_eq_add_succ]
    · have hahead : (cursorAt text text.length).ahead = [] := List.drop_length
      rw [hahead]
      simp

/-- A walk that halts in front of line ends does not go beyond the first one on its way. -/
theorem forward_halting_cursorAt {n : Nat} (k : Nat) (hn : n ≤ text.length) :
    Cursor.forward true k (cursorAt text n) =
      ⟨decide (lineEndFrom text n < n + k ∧ lineEndFrom text n < text.length),
        cursorAt text (min (n + k) (lineEndFrom text n))⟩ := by
  induction k generalizing n with
  | zero =>
    have hle : n ≤ lineEndFrom text n := Nat.le_add_right _ _
    rw [Cursor.forward, Nat.add_zero, Nat.min_eq_left hle, decide_eq_false (by omega)]
  | succ k ih =>
    rw [Cursor.forward]
    rcases Nat.lt_or_eq_of_le hn with hlt | rfl
    · have hahead : (cursorAt text n).ahead = text[n] :: text.drop (n + 1) :=
        List.drop_eq_getElem_cons hlt
      rw [hahead]
      cases hline : isLineEnd text[n] with
      | true =>
        rw [lineEndFrom_eq_self hlt hline, Nat.min_eq_right (by omega),
          decide_eq_true ⟨by omega, hlt⟩]
        exact if_pos hline
      | false =>
        have hstep : n + (k + 1) = n + 1 + k := by omega
        rw [lineEndFrom_succ hlt hline, hstep, ← ih hlt, ← next_cursorAt hlt]
        exact if_neg (by simp [hline])
    · have hahead : (cursorAt text text.length).ahead = [] := List.drop_length
      have hend : lineEndFrom text text.length = text.length := by simp [lineEndFrom]
      rw [hahead]
      simp [hend]

def reached (text : List Char) (n target : Nat) (haltAtLineEnd : Bool) : Nat :=
  if haltAtLineEnd then min target (lineEndFrom text n) else target

theorem le_reached {n target : Nat} (h : n ≤ target) (halt : Bool) :
    n ≤ reached text n target halt := by
  have hle : n ≤ lineEndFrom text n := Nat.le_add_right _ _
  cases halt
  · exact h
  · simp only [reached, if_true]
    omega

theorem reached_le (n target : Nat) (halt : Bool) : reached text n target halt ≤ target := by
  cases halt
  · exact Nat.le_refl _
  · exact Nat.min_le_left _ _

theorem seekIndex_cursorAt {n target : Nat} (h : n ≤ target) (htarget : target ≤ text.length)
    (halt : Bool) :
    (cursorAt text n).seekIndex target halt =
      (some (measure Char.utf8Size (text.take (reached text n target halt))),
        cursorAt text (reached text n target halt)) := by
  have hn : n ≤ text.length := Nat.le_trans h htarget
  have hreach : reached text n target halt ≤ text.length :=
    Nat.le_trans (reached_le n target halt) htarget
  have hwalk : (cursorAt text n).walk target halt =
      ⟨halt && decide (lineEndFrom text n < target),
        cursorAt text (reached text n target halt)⟩ := by
    rw [Cursor.walk, charIndex_cursorAt hn, if_pos h]
    cases halt with
    | false =>
      rw [forward_cursorAt _ hn, Nat.add_sub_cancel' h, Nat.min_eq_left htarget]
      rfl
    | true =>
      rw [forward_halting_cursorAt _ hn, Nat.add_sub_cancel' h]
      have hlt : (lineEndFrom text n < target ∧ lineEndFrom text n < text.length) ↔
          lineEndFrom text n < target := by omega
      simp only [hlt]
      rfl
  have hstops : (halt && decide (lineEndFrom text n < target) ||
      (cursorAt text (reached text n target halt)).charIndex == target) = true := by
    rw [charIndex_cursorAt hreach, Bool.or_eq_true, beq_iff_eq]
    cases halt with
    | false => exact Or.inr rfl
    | true =>
      simp only [reached, if_true, Bool.true_and, decide_eq_true_eq]
      omega
  simp only [Cursor.seekIndex, hwalk, hstops, if_true]
  rfl

/-! ## Windows -/

/-- The number of characters behind the last line feed. -/
def columnBehind (chars : List Char) : Nat := (chars.reverse.takeWhile fun c => c != '\n').length

/-- The place of the character `n` of a text whose first line is `line`. -/
def placeAt (line : Int) (text : List Char) (n : Nat) : Position :=
  ⟨measure Char.utf8Size (text.take n), line + (text.take n).count '\n',
    columnBehind (text.take n)⟩

def windowAt (line : Int) (text : List Char) (n : Nat) : Window :=
  ⟨cursorAt text n, line + (text.take n).count '\n', columnBehind (text.take n)⟩

theorem onLine_eq_windowAt (line : Int) (text : String) :
    Window.onLine line text = windowAt line text.toList 0 := by
  simp [Window.onLine, ofString_eq_cursorAt, windowAt, columnBehind]

theorem columnBehind_concat (chars : List Char) (c : Char) :
    columnBehind (chars ++ [c]) = if c = '\n' then 0 else columnBehind chars + 1 := by
  rw [columnBehind, columnBehind, List.reverse_append, List.reverse_singleton,
    List.singleton_append]
  split
  next h => simp [h]
  next h => rw [List.takeWhile_cons_of_pos (by simp [h]), List.length_cons]

/-- Counting forward from the start of a line gives the line feeds and the column. -/
theorem foldl_after (line : Int) (chars : List Char) :
    chars.foldl Window.Counts.after ⟨line, 0⟩ =
      ⟨line + chars.count '\n', columnBehind chars⟩ := by
  induction chars using List.reverseRecOn with
  | nil => simp [columnBehind]
  | append_singleton chars c ih =>
    rw [List.foldl_append, ih, columnBehind_concat, List.count_append, List.foldl_cons,
      List.foldl_nil, Window.Counts.after]
    by_cases h : c = '\n'
    · subst h
      simp [Int.add_assoc]
    · simp [h]

theorem follow_windowAt (line : Int) {n m : Nat} (hnm : n ≤ m) (hm : m ≤ text.length) :
    (windowAt line text n).follow (cursorAt text m) = windowAt line text m := by
  have hn : n ≤ text.length := Nat.le_trans hnm hm
  have hback : n - m = 0 := by omega
  have htake : text.take n ++ (text.drop n).take (m - n) = text.take m := by
    rw [← List.take_add, Nat.add_sub_cancel' hnm]
  have hcounts : ((text.drop n).take (m - n)).foldl Window.Counts.after
      ⟨line + (text.take n).count '\n', columnBehind (text.take n)⟩ =
        ⟨line + (text.take m).count '\n', columnBehind (text.take m)⟩ := by
    rw [← foldl_after, ← List.foldl_append, htake, foldl_after]
  simp only [Window.follow, windowAt, charIndex_cursorAt hn, charIndex_cursorAt hm, hback,
    List.take_zero, List.foldl_nil]
  show Window.mk _ _ _ = _
  rw [show (cursorAt text n).ahead = text.drop n from rfl, hcounts]

theorem moveTo_windowAt (line : Int) {n target : Nat} (h : n ≤ target)
    (htarget : target ≤ text.length) (halt : Bool) :
    (windowAt line text n).moveTo target halt =
      (placeAt line text (reached text n target halt),
        windowAt line text (reached text n target halt)) := by
  have hreach : reached text n target halt ≤ text.length :=
    Nat.le_trans (reached_le n target halt) htarget
  have hseek : (windowAt line text n).cursor.seekIndex target halt = _ :=
    seekIndex_cursorAt h htarget halt
  simp only [Window.moveTo, hseek, follow_windowAt line (le_reached h halt) hreach,
    Option.getD_some]
  rfl

end ProseTrace.Proofs.Text.ExactPlaces
