import Mathlib.Order.Bounds.Defs
import ProseTrace.Document.Source
import ProseTrace.Proofs.Text.ExactPlaces
import ProseTrace.Proofs.Text.Utf8Bytes

/-!
# Runs of a cursor

A cursor is asked for one character after the other, forward and backward, with and without halting
in front of line ends.  A walk back takes away the widths that the walks forward added, so that the
cursor stands at an exact place after every call, and the outcome of the next call is told by the
text, that place and the target alone.
-/

namespace ProseTrace.Proofs.Text.CursorRuns

open ProseTrace.Text ProseTrace.Document
open ProseTrace.Proofs.Text.OffsetTable ProseTrace.Proofs.Text.Utf8Bytes
open ProseTrace.Proofs.Text.ExactPlaces

variable {text : List Char}

/-! ## Walking back -/

/-- One past the last line end before the character `n`, or the start of the text. -/
def lineStartBefore (text : List Char) (n : Nat) : Nat :=
  n - ((text.take n).reverse.takeWhile fun c => !isLineEnd c).length

theorem passed_cursorAt_succ {n : Nat} (hn : n < text.length) :
    (cursorAt text (n + 1)).passed = text[n] :: (text.take n).reverse := by
  have htake : text.take (n + 1) = text.take n ++ [text[n]] := List.take_succ_eq_append_getElem hn
  rw [cursorAt, htake, List.reverse_append]
  rfl

theorem previous_cursorAt {n : Nat} (hn : n < text.length) :
    (cursorAt text (n + 1)).previous = cursorAt text n := by
  have hdrop : text.drop n = text[n] :: text.drop (n + 1) := List.drop_eq_getElem_cons hn
  have htake : text.take (n + 1) = text.take n ++ [text[n]] := List.take_succ_eq_append_getElem hn
  have hbyte : (cursorAt text (n + 1)).byteIndex - text[n].utf8Size =
      (cursorAt text n).byteIndex := by
    simp only [cursorAt, htake, measure_append, measure_cons, measure_nil]
    omega
  rw [Cursor.previous, passed_cursorAt_succ hn]
  simp only [hbyte]
  simp only [cursorAt, hdrop]

theorem lineStartBefore_eq_self {n : Nat} (hn : n < text.length) (h : isLineEnd text[n] = true) :
    lineStartBefore text (n + 1) = n + 1 := by
  rw [lineStartBefore, List.take_succ_eq_append_getElem hn, List.reverse_append,
    List.reverse_singleton, List.singleton_append, List.takeWhile_cons_of_neg (by simp [h])]
  rfl

theorem lineStartBefore_succ {n : Nat} (hn : n < text.length) (h : isLineEnd text[n] = false) :
    lineStartBefore text (n + 1) = lineStartBefore text n := by
  rw [lineStartBefore, lineStartBefore, List.take_succ_eq_append_getElem hn, List.reverse_append,
    List.reverse_singleton, List.singleton_append, List.takeWhile_cons_of_pos (by simp [h]),
    List.length_cons]
  omega

theorem lineStartBefore_le (text : List Char) (n : Nat) : lineStartBefore text n ≤ n :=
  Nat.sub_le _ _

theorem backward_cursorAt {n k : Nat} (hk : k ≤ n) (hn : n ≤ text.length) :
    Cursor.backward false k (cursorAt text n) = ⟨false, cursorAt text (n - k)⟩ := by
  induction k generalizing n with
  | zero => rfl
  | succ k ih =>
    obtain ⟨m, rfl⟩ : ∃ m, n = m + 1 := ⟨n - 1, by omega⟩
    rw [Cursor.backward, passed_cursorAt_succ hn]
    simp only [Bool.false_and, Bool.false_eq_true, if_false]
    rw [previous_cursorAt hn, ih (by omega) (by omega), Nat.add_sub_add_right]

/-- A walk back that halts behind line ends does not go beyond the first one on its way. -/
theorem backward_halting_cursorAt {n k : Nat} (hk : k ≤ n) (hn : n ≤ text.length) :
    Cursor.backward true k (cursorAt text n) =
      ⟨decide (n - k < lineStartBefore text n),
        cursorAt text (max (n - k) (lineStartBefore text n))⟩ := by
  induction k generalizing n with
  | zero =>
    have hle := lineStartBefore_le text n
    rw [Cursor.backward, Nat.sub_zero, Nat.max_eq_left hle, decide_eq_false (by omega)]
  | succ k ih =>
    obtain ⟨m, rfl⟩ : ∃ m, n = m + 1 := ⟨n - 1, by omega⟩
    rw [Cursor.backward, passed_cursorAt_succ hn]
    cases hline : isLineEnd text[m] with
    | true =>
      rw [lineStartBefore_eq_self hn hline, Nat.max_eq_right (by omega), decide_eq_true (by omega)]
      exact if_pos hline
    | false =>
      rw [lineStartBefore_succ hn hline, Nat.add_sub_add_right, ← ih (by omega) (by omega),
        ← previous_cursorAt hn]
      exact if_neg (by simp [hline])

/-! ## Where a walk ends -/

def IsLineEndAt (text : List Char) (k : Nat) : Prop :=
  ∃ c, text[k]? = some c ∧ (c = '\n' ∨ c = '\r')

theorem isLineEndAt_iff {k : Nat} (hk : k < text.length) :
    IsLineEndAt text k ↔ isLineEnd text[k] = true := by
  simp [IsLineEndAt, List.getElem?_eq_getElem hk, isLineEnd]

theorem IsLineEndAt.lt_length {k : Nat} (h : IsLineEndAt text k) : k < text.length := by
  obtain ⟨c, hc, _⟩ := h
  exact (List.getElem?_eq_some_iff.1 hc).1

theorem lineEndFrom_spec {n : Nat} (hn : n ≤ text.length) :
    n ≤ lineEndFrom text n ∧
      (lineEndFrom text n = text.length ∨ IsLineEndAt text (lineEndFrom text n)) ∧
      ∀ k, n ≤ k → IsLineEndAt text k → lineEndFrom text n ≤ k := by
  induction hleft : text.length - n generalizing n with
  | zero =>
    obtain rfl : n = text.length := by omega
    have hend : lineEndFrom text text.length = text.length := by simp [lineEndFrom]
    refine ⟨by omega, Or.inl hend, fun k hk hline => ?_⟩
    have := hline.lt_length
    omega
  | succ left ih =>
    have hlt : n < text.length := by omega
    have hsucc : n + 1 ≤ text.length := hlt
    cases hline : isLineEnd text[n] with
    | true =>
      rw [lineEndFrom_eq_self hlt hline]
      exact ⟨Nat.le_refl n, Or.inr ((isLineEndAt_iff hlt).2 hline), fun k hk _ => hk⟩
    | false =>
      obtain ⟨hle, hat, hfirst⟩ := ih hsucc (by omega)
      rw [lineEndFrom_succ hlt hline]
      refine ⟨by omega, hat, fun k hk hk' => hfirst k ?_ hk'⟩
      have hne : k ≠ n := by
        rintro rfl
        rw [isLineEndAt_iff hlt, hline] at hk'
        cases hk'
      omega

theorem lineEndFrom_le {n : Nat} (hn : n ≤ text.length) : lineEndFrom text n ≤ text.length := by
  rcases (lineEndFrom_spec hn).2.1 with hend | hline
  · exact Nat.le_of_eq hend
  · exact Nat.le_of_lt hline.lt_length

theorem lineStartBefore_spec {n : Nat} (hn : n ≤ text.length) :
    (lineStartBefore text n = 0 ∨
        ∃ i, i < n ∧ IsLineEndAt text i ∧ lineStartBefore text n = i + 1) ∧
      ∀ i, i < n → IsLineEndAt text i → i + 1 ≤ lineStartBefore text n := by
  induction n with
  | zero => exact ⟨Or.inl rfl, fun i hi => absurd hi (Nat.not_lt_zero i)⟩
  | succ n ih =>
    cases hline : isLineEnd text[n] with
    | true =>
      rw [lineStartBefore_eq_self hn hline]
      refine ⟨Or.inr ⟨n, by omega, (isLineEndAt_iff hn).2 hline, rfl⟩, fun i hi _ => by omega⟩
    | false =>
      obtain ⟨hat, hlast⟩ := ih (by omega)
      rw [lineStartBefore_succ hn hline]
      refine ⟨hat.imp id fun ⟨i, hi, h⟩ => ⟨i, by omega, h⟩, fun i hi hi' => hlast i ?_ hi'⟩
      have hne : i ≠ n := by
        rintro rfl
        rw [isLineEndAt_iff hn, hline] at hi'
        cases hi'
      omega

/-- The place where a walk from the character `n` toward `target` ends. -/
def destination (text : List Char) (n target : Nat) (haltAtLineEnd : Bool) : Nat :=
  if haltAtLineEnd then
    if n ≤ target then min target (lineEndFrom text n) else max target (lineStartBefore text n)
  else min target text.length

/-- A line end halts the walk from the character `n` toward `target`. -/
def IsHalted (text : List Char) (n target : Nat) : Prop :=
  if n ≤ target then lineEndFrom text n < target ∧ lineEndFrom text n < text.length
  else target < lineStartBefore text n

instance (text : List Char) (n target : Nat) : Decidable (IsHalted text n target) :=
  inferInstanceAs (Decidable (if n ≤ target then _ else _))

theorem destination_le {n : Nat} (hn : n ≤ text.length) (target : Nat) (halt : Bool) :
    destination text n target halt ≤ text.length := by
  have hline := lineEndFrom_le hn
  have hstart := lineStartBefore_le text n
  unfold destination
  cases halt with
  | false => exact Nat.min_le_right _ _
  | true =>
    simp only [if_true]
    split <;> omega

theorem walk_cursorAt {n : Nat} (hn : n ≤ text.length) (target : Nat) (halt : Bool) :
    (cursorAt text n).walk target halt =
      ⟨halt && decide (IsHalted text n target),
        cursorAt text (destination text n target halt)⟩ := by
  rw [Cursor.walk, charIndex_cursorAt hn]
  unfold destination IsHalted
  by_cases h : n ≤ target
  · simp only [if_pos h]
    cases halt with
    | false => rw [forward_cursorAt _ hn, Nat.add_sub_cancel' h]; rfl
    | true => rw [forward_halting_cursorAt _ hn, Nat.add_sub_cancel' h]; rfl
  · have hback : n - (n - target) = target := by omega
    simp only [if_neg h]
    cases halt with
    | false =>
      rw [backward_cursorAt (Nat.sub_le _ _) hn, hback, if_neg (by simp),
        Nat.min_eq_left (by omega)]
      rfl
    | true => rw [backward_halting_cursorAt (Nat.sub_le _ _) hn, hback]; rfl

/-! ## One call -/

/-- What a call gives that asks for the character `target` from the character `start`: where the
cursor comes to rest, and the answer. -/
structure LeadsTo (text : List Char) (start target : Nat) (haltAtLineEnd : Bool)
    (answer : Option Nat) (stop : Nat) : Prop where
  free : haltAtLineEnd = false → stop = min target text.length
  forward : haltAtLineEnd = true → start ≤ target →
    IsLeast {k | k = target ∨ k = text.length ∨ start ≤ k ∧ IsLineEndAt text k} stop
  backward : haltAtLineEnd = true → target < start →
    IsGreatest {k | k = target ∨ ∃ i, i < start ∧ IsLineEndAt text i ∧ k = i + 1} stop
  none_iff : answer = none ↔
    text.length < target ∧ ¬ (haltAtLineEnd = true ∧ ∃ k, start ≤ k ∧ IsLineEndAt text k)
  some_eq : ∀ offset, answer = some offset → offset = bytesBefore text stop

theorem isLeast_destination {n target : Nat} (hn : n ≤ text.length) (h : n ≤ target) :
    IsLeast {k | k = target ∨ k = text.length ∨ n ≤ k ∧ IsLineEndAt text k}
      (destination text n target true) := by
  obtain ⟨hle, hat, hfirst⟩ := lineEndFrom_spec hn
  have hdest : destination text n target true = min target (lineEndFrom text n) := by
    simp only [destination, if_true, if_pos h]
  rw [hdest]
  constructor
  · rcases Nat.le_total target (lineEndFrom text n) with hmin | hmin
    · exact Or.inl (Nat.min_eq_left hmin)
    · rw [Nat.min_eq_right hmin]
      exact Or.inr (hat.imp id fun hline => ⟨hle, hline⟩)
  · rintro k (rfl | rfl | ⟨hk, hline⟩)
    · exact Nat.min_le_left _ _
    · exact Nat.le_trans (Nat.min_le_right _ _) (lineEndFrom_le hn)
    · exact Nat.le_trans (Nat.min_le_right _ _) (hfirst k hk hline)

theorem isGreatest_destination {n target : Nat} (hn : n ≤ text.length) (h : target < n) :
    IsGreatest {k | k = target ∨ ∃ i, i < n ∧ IsLineEndAt text i ∧ k = i + 1}
      (destination text n target true) := by
  obtain ⟨hat, hlast⟩ := lineStartBefore_spec hn
  have hdest : destination text n target true = max target (lineStartBefore text n) := by
    simp only [destination, if_true, if_neg (Nat.not_le_of_lt h)]
  rw [hdest]
  constructor
  · rcases Nat.le_total (lineStartBefore text n) target with hmax | hmax
    · exact Or.inl (Nat.max_eq_left hmax)
    · rw [Nat.max_eq_right hmax]
      exact hat.imp (fun hzero => by omega) id
  · rintro k (rfl | ⟨i, hi, hline, rfl⟩)
    · exact Nat.le_max_left _ _
    · exact Nat.le_trans (hlast i hi hline) (Nat.le_max_right _ _)

/-- A walk that ends before its target was halted, or the text ended. -/
theorem isHalted_or_eq_iff {n target : Nat} (hn : n ≤ text.length) (halt : Bool) :
    (halt = true ∧ IsHalted text n target) ∨ destination text n target halt = target ↔
      ¬ (text.length < target ∧ ¬ (halt = true ∧ ∃ k, n ≤ k ∧ IsLineEndAt text k)) := by
  obtain ⟨hle, hat, hfirst⟩ := lineEndFrom_spec hn
  have hend := lineEndFrom_le hn
  -- Some line end lies ahead if and only if the first one is not the end of the text.
  have hahead : (∃ k, n ≤ k ∧ IsLineEndAt text k) ↔ lineEndFrom text n < text.length := by
    constructor
    · rintro ⟨k, hk, hline⟩
      have := hfirst k hk hline
      have := hline.lt_length
      omega
    · intro hlt
      exact ⟨_, hle, hat.resolve_left (Nat.ne_of_lt hlt)⟩
  rw [hahead]
  unfold IsHalted destination
  cases halt with
  | false =>
    simp only [Bool.false_eq_true, false_and, false_or, if_false, not_false_eq_true, and_true]
    omega
  | true =>
    simp only [true_and, if_true]
    split <;> omega

theorem seekIndex_leadsTo {n : Nat} (hn : n ≤ text.length) (target : Nat) (halt : Bool) :
    ∃ answer, (cursorAt text n).seekIndex target halt =
        (answer, cursorAt text (destination text n target halt)) ∧
      LeadsTo text n target halt answer (destination text n target halt) := by
  have hdest := destination_le hn target halt
  have hfound : (halt && decide (IsHalted text n target) ||
      destination text n target halt == target) = true ↔
        ¬ (text.length < target ∧ ¬ (halt = true ∧ ∃ k, n ≤ k ∧ IsLineEndAt text k)) := by
    rw [← isHalted_or_eq_iff hn halt, Bool.or_eq_true, Bool.and_eq_true, decide_eq_true_eq,
      beq_iff_eq]
  have hfree : halt = false → destination text n target halt = min target text.length := by
    rintro rfl
    rfl
  have hforward : halt = true → n ≤ target → IsLeast
      {k | k = target ∨ k = text.length ∨ n ≤ k ∧ IsLineEndAt text k}
      (destination text n target halt) := by
    rintro rfl h
    exact isLeast_destination hn h
  have hbackward : halt = true → target < n → IsGreatest
      {k | k = target ∨ ∃ i, i < n ∧ IsLineEndAt text i ∧ k = i + 1}
      (destination text n target halt) := by
    rintro rfl h
    exact isGreatest_destination hn h
  simp only [Cursor.seekIndex, walk_cursorAt hn, charIndex_cursorAt hdest]
  by_cases hnone : text.length < target ∧ ¬ (halt = true ∧ ∃ k, n ≤ k ∧ IsLineEndAt text k)
  · rw [if_neg (mt hfound.1 (not_not_intro hnone))]
    refine ⟨none, rfl, hfree, hforward, hbackward, ⟨fun _ => hnone, fun _ => rfl⟩, ?_⟩
    intro offset h
    cases h
  · rw [if_pos (hfound.2 hnone)]
    refine ⟨_, rfl, hfree, hforward, hbackward, ⟨?_, fun h => absurd h hnone⟩, ?_⟩
    · intro h
      cases h
    · intro offset h
      cases h
      exact (bytesBefore_eq_measure _ _).symm

/-! ## Runs -/

/-- A call: the character asked for, and whether line ends halt the walk. -/
structure Query where
  target : Int
  haltAtLineEnd : Bool

/-- The cursor behind a call; a call that is refused leaves it where it was. -/
def step (c : Cursor) (q : Query) : Cursor :=
  match c.seek q.target q.haltAtLineEnd with
  | .ok (_, next) => next
  | .error _ => c

def cursorAfter (text : String) (run : List Query) : Cursor := run.foldl step (.ofString text)

theorem cursorAfter_concat (text : String) (run : List Query) (q : Query) :
    cursorAfter text (run ++ [q]) = step (cursorAfter text run) q := by
  rw [cursorAfter, cursorAfter, List.foldl_append]
  rfl

theorem seek_eq_error {target : Int} (h : target < 0) (c : Cursor) (halt : Bool) :
    c.seek target halt = .error {} := by
  rw [Cursor.seek, if_pos h]

theorem seek_eq_ok {target : Int} (h : 0 ≤ target) (c : Cursor) (halt : Bool) :
    c.seek target halt = .ok (c.seekIndex target.toNat halt) := by
  rw [Cursor.seek, if_neg (by omega)]

theorem step_eq_self {q : Query} (h : q.target < 0) (c : Cursor) : step c q = c := by
  rw [step, seek_eq_error h]

theorem step_eq_seekIndex {q : Query} (h : 0 ≤ q.target) (c : Cursor) :
    step c q = (c.seekIndex q.target.toNat q.haltAtLineEnd).2 := by
  rw [step, seek_eq_ok h]

theorem exists_step_eq_cursorAt {n : Nat} (hn : n ≤ text.length) (q : Query) :
    ∃ m, m ≤ text.length ∧ step (cursorAt text n) q = cursorAt text m := by
  by_cases h : q.target < 0
  · exact ⟨n, hn, step_eq_self h _⟩
  · obtain ⟨answer, hseek, _⟩ := seekIndex_leadsTo hn q.target.toNat q.haltAtLineEnd
    refine ⟨_, destination_le hn q.target.toNat q.haltAtLineEnd, ?_⟩
    rw [step_eq_seekIndex (by omega), hseek]

/-- However it was moved, a cursor stands at an exact place. -/
theorem exists_cursorAfter_eq (text : String) (run : List Query) :
    ∃ n, n ≤ text.toList.length ∧ cursorAfter text run = cursorAt text.toList n := by
  have hrun : ∀ n, n ≤ text.toList.length →
      ∃ m, m ≤ text.toList.length ∧ run.foldl step (cursorAt text.toList n) =
        cursorAt text.toList m := by
    induction run with
    | nil => exact fun n hn => ⟨n, hn, rfl⟩
    | cons q rest ih =>
      intro n hn
      obtain ⟨m, hm, hstep⟩ := exists_step_eq_cursorAt hn q
      rw [List.foldl_cons, hstep]
      exact ih m hm
  exact hrun 0 (Nat.zero_le _)

theorem chars_cursorAt (text : List Char) (n : Nat) : (cursorAt text n).chars = text := by
  rw [Cursor.chars, cursorAt, List.reverse_reverse, List.take_append_drop]

/-- Without halting, a call gives what the source's table of offsets gives. -/
theorem answer_eq_byteOffset {source : Source} {n target : Nat} {answer : Option Nat} {stop : Nat}
    (h : LeadsTo source.text.toList n target false answer stop) :
    answer = (source.byteOffset target).toOption := by
  rw [Source.byteOffset, if_neg (by omega), Int.toNat_natCast, Source.boundaries]
  cases answer with
  | none =>
    have hbeyond := (h.none_iff.1 rfl).1
    rw [getElem?_offsets_eq_none hbeyond]
    rfl
  | some offset =>
    have hinside : target ≤ source.text.toList.length := by
      by_contra hbeyond
      have hnone := h.none_iff.2 ⟨by omega, by simp⟩
      cases hnone
    rw [getElem?_offsets hinside, ← bytesBefore_eq_measure, h.some_eq offset rfl, h.free rfl,
      Nat.min_eq_left hinside]
    rfl

/-- Behind any run of calls the byte index is that of the character index, which lies in the text.
The next call is refused if its target is negative, and changes nothing then; otherwise the cursor
rests and answers as the text, its place and the target tell.  Without halting the answer is the one
of a source with this text, whatever the calls before. -/
theorem seek_cursorAfter (text : String) (run : List Query) (target : Int) (halt : Bool) :
    (cursorAfter text run).chars = text.toList ∧
    (cursorAfter text run).charIndex ≤ text.length ∧
    (cursorAfter text run).byteIndex =
      bytesBefore text.toList (cursorAfter text run).charIndex ∧
    (target < 0 → (cursorAfter text run).seek target halt = .error {} ∧
      cursorAfter text (run ++ [⟨target, halt⟩]) = cursorAfter text run) ∧
    (0 ≤ target → ∃ answer,
      (cursorAfter text run).seek target halt =
        .ok (answer, cursorAfter text (run ++ [⟨target, halt⟩])) ∧
      LeadsTo text.toList (cursorAfter text run).charIndex target.toNat halt answer
        (cursorAfter text (run ++ [⟨target, halt⟩])).charIndex ∧
      (halt = false → ∀ id, answer = (Source.byteOffset ⟨id, text⟩ target).toOption)) := by
  obtain ⟨n, hn, hafter⟩ := exists_cursorAfter_eq text run
  have hindex : (cursorAfter text run).charIndex = n := by rw [hafter, charIndex_cursorAt hn]
  refine ⟨?_, ?_, ?_, ?_, ?_⟩
  · rw [hafter, chars_cursorAt]
  · rw [hindex, ← String.length_toList]
    exact hn
  · rw [hindex, hafter, bytesBefore_eq_measure]
    rfl
  · intro h
    exact ⟨seek_eq_error h _ halt, by rw [cursorAfter_concat, step_eq_self h]⟩
  · intro h
    obtain ⟨answer, hseek, hleads⟩ := seekIndex_leadsTo hn target.toNat halt
    have hnext : cursorAfter text (run ++ [⟨target, halt⟩]) =
        cursorAt text.toList (destination text.toList n target.toNat halt) := by
      rw [cursorAfter_concat, step_eq_seekIndex h, hafter, hseek]
    rw [hnext, hindex, charIndex_cursorAt (destination_le hn target.toNat halt)]
    refine ⟨answer, by rw [seek_eq_ok h, hafter, hseek], hleads, ?_⟩
    rintro rfl id
    have htable : answer = ((⟨id, text⟩ : Source).byteOffset target.toNat).toOption :=
      answer_eq_byteOffset hleads
    rwa [Int.toNat_of_nonneg h] at htable

end ProseTrace.Proofs.Text.CursorRuns
