import Mathlib.Data.List.Basic
import ProseTrace.Text.Numeral

/-!
# Integers that were written

An integer is written as its decimal digits, behind a minus if it is negative.  Read again, these
are the integer that was written, as long as it has no more digits than are read at all.
-/

namespace ProseTrace.Proofs.Text.WrittenIntegers

open ProseTrace.Text ProseTrace.Text.Numeral

/-! ## Digits of ASCII -/

def digitValue (c : Char) : Nat := c.toNat - '0'.toNat

theorem isDigit_iff {c : Char} : c.isDigit = true ↔ 48 ≤ c.toNat ∧ c.toNat ≤ 57 := by
  rw [Char.isDigit, Bool.and_eq_true, decide_eq_true_iff, decide_eq_true_iff]
  rfl

theorem decimalDigit?_of_isDigit {c : Char} (h : c.isDigit = true) :
    decimalDigit? c = some (digitValue c) := by
  obtain ⟨hlow, hhigh⟩ := isDigit_iff.1 h
  have hzeros : digitZeros = 48 :: digitZeros.tail := rfl
  rw [decimalDigit?, hzeros, List.find?_cons_of_pos]
  · rfl
  · rw [Bool.and_eq_true, decide_eq_true_iff, decide_eq_true_iff]
    omega

theorem isMargin_of_isDigit {c : Char} (h : c.isDigit = true) : isMargin c = false := by
  obtain ⟨hlow, hhigh⟩ := isDigit_iff.1 h
  have hblank : isBlank c = false := by
    simp only [isBlank, Bool.or_eq_false_iff, Bool.and_eq_false_iff, decide_eq_false_iff_not,
      beq_eq_false_iff_ne]
    omega
  rw [isMargin, hblank]
  rfl

theorem digits?_of_isDigit {text : List Char} (hne : text ≠ [])
    (h : ∀ c ∈ text, c.isDigit = true) : digits? text = some (text.map digitValue) := by
  fun_induction digits? text with
  | case1 => exact absurd rfl hne
  | case2 c => rw [decimalDigit?_of_isDigit (h c List.mem_cons_self)]; rfl
  | case3 c rest ih =>
    have hunderscore := h '_' (by simp)
    exact absurd hunderscore (by decide)
  | case4 c rest hsingle hunderscore ih =>
    obtain ⟨hc, hrest⟩ := List.forall_mem_cons.1 h
    have hrest_ne : rest ≠ [] := fun hnil => hsingle (by rw [hnil])
    rw [decimalDigit?_of_isDigit hc, ih hrest_ne hrest]
    rfl

theorem ofDigits_map_digitValue (text : List Char) :
    ofDigits (text.map digitValue) = Nat.ofDigitChars 10 text 0 := by
  rw [ofDigits, List.foldl_map]
  rfl

/-! ## Reading what was written -/

theorem trimmed_eq_self {text : List Char} (h : ∀ c ∈ text, isMargin c = false) :
    trimmed text = text := by
  have hkeep : ∀ t : List Char, (∀ c ∈ t, isMargin c = false) → t.dropWhile isMargin = t := by
    intro t ht
    cases t with
    | nil => rfl
    | cons c rest => exact List.dropWhile_cons_of_neg (by rw [ht c List.mem_cons_self]; decide)
  have hback : ∀ c ∈ text.reverse, isMargin c = false := by
    intro c hc
    exact h c (List.mem_reverse.1 hc)
  rw [trimmed, hkeep text h, hkeep _ hback, List.reverse_reverse]

theorem isMargin_of_mem_toDigits {n : Nat} {c : Char} (h : c ∈ Nat.toDigits 10 n) :
    isMargin c = false :=
  isMargin_of_isDigit (Nat.isDigit_of_mem_toDigits (by decide) (by decide) h)

theorem digits?_toDigits (n : Nat) :
    digits? (Nat.toDigits 10 n) = some ((Nat.toDigits 10 n).map digitValue) := by
  apply digits?_of_isDigit Nat.toDigits_ne_nil
  intro c hc
  exact Nat.isDigit_of_mem_toDigits (by decide) (by decide) hc

theorem ofDigits_toDigits (n : Nat) : ofDigits ((Nat.toDigits 10 n).map digitValue) = n := by
  rw [ofDigits_map_digitValue]
  exact Nat.ofDigitChars_toDigits (by decide) (by decide)

theorem isWritable_of_natAbs_lt {n : Int} (h : n.natAbs < 1000000000) : isWritable n = true := by
  have hpow : ∀ k, 9 ≤ k → Nat.pow 10 9 ≤ Nat.pow 10 k :=
    fun k hk => Nat.pow_le_pow_right (by decide) hk
  rw [isWritable, decide_eq_true_iff]
  exact Nat.lt_of_lt_of_le h (hpow maxDigits (by decide))

theorem length_toDigits_le_iff_isWritable (n : Int) :
    ((Nat.toDigits 10 n.natAbs).map digitValue).length ≤ maxDigits ↔ isWritable n = true := by
  have hcount : ∀ k, 0 < k → ((Nat.toDigits 10 n.natAbs).length ≤ k ↔ n.natAbs < 10 ^ k) :=
    fun k hk => Nat.length_toDigits_le_iff (by decide) hk
  rw [List.length_map, hcount maxDigits (by decide), isWritable, decide_eq_true_iff, Nat.pow_eq]

/-- An integer is read from its own digits, unless they are too many. -/
theorem readInt?_toString (n : Int) :
    readInt? (toString n) = if isWritable n = true then some n else none := by
  rw [Int.toString_eq_repr]
  cases n with
  | ofNat m =>
    have hdigits : digits? (trimmed (Int.ofNat m).repr.toList) =
        some ((Nat.toDigits 10 m).map digitValue) := by
      rw [show (Int.ofNat m).repr = m.repr from rfl, Nat.toList_repr,
        trimmed_eq_self fun c hc => isMargin_of_mem_toDigits hc, digits?_toDigits]
    rw [readInt?_of_digits hdigits, ofDigits_toDigits]
    simp only [← length_toDigits_le_iff_isWritable]
    rfl
  | negSucc m =>
    have htext : trimmed (Int.negSucc m).repr.toList = '-' :: Nat.toDigits 10 (m + 1) := by
      rw [show (Int.negSucc m).repr = "-" ++ (m + 1).repr from rfl, String.toList_append,
        Nat.toList_repr]
      apply trimmed_eq_self
      intro c hc
      rcases List.mem_cons.1 hc with rfl | hc
      · decide
      · exact isMargin_of_mem_toDigits hc
    rw [readInt?_of_minus htext (digits?_toDigits (m + 1)), ofDigits_toDigits]
    simp only [← length_toDigits_le_iff_isWritable]
    rfl

end ProseTrace.Proofs.Text.WrittenIntegers
