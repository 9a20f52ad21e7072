import ProseTrace.Text.Offsets

/-!
# Offsets of prefixes

The measure of a prefix of a text tells how long the prefix is, provided that every character has a
width.  So the offset table of the text is strictly ascending, and bisection finds each of its
entries at its own index.
-/

namespace ProseTrace.Proofs.Text.OffsetTable

open ProseTrace.Text

variable {width : Char → Nat}

theorem measure_eq_length {text : List Char} (hone : ∀ c ∈ text, width c = 1) :
    measure width text = text.length := by
  induction text with
  | nil => rfl
  | cons c rest ih =>
    rw [measure_cons, hone c List.mem_cons_self, List.length_cons,
      ih fun d hd => hone d (List.mem_cons_of_mem c hd)]
    omega

theorem measure_take_le (width : Char → Nat) (text : List Char) {i j : Nat} (hij : i ≤ j) :
    measure width (text.take i) ≤ measure width (text.take j) := by
  have hsplit : text.take j = text.take i ++ (text.drop i).take (j - i) := by
    rw [← List.take_add, Nat.add_sub_cancel' hij]
  rw [hsplit, measure_append]
  omega

theorem measure_take_lt (hpos : ∀ c, 0 < width c) {text : List Char} {i j : Nat} (hij : i < j)
    (hj : j ≤ text.length) : measure width (text.take i) < measure width (text.take j) := by
  have hi : i < text.length := by omega
  have hstep : measure width (text.take (i + 1)) = measure width (text.take i) + width text[i] := by
    rw [List.take_add_one, List.getElem?_eq_getElem hi, measure_append]
    simp
  have hrest := measure_take_le width text (show i + 1 ≤ j by omega)
  have := hpos text[i]
  omega

theorem measure_take_inj (hpos : ∀ c, 0 < width c) {text : List Char} {i j : Nat}
    (hi : i ≤ text.length) (hj : j ≤ text.length)
    (h : measure width (text.take i) = measure width (text.take j)) : i = j := by
  rcases Nat.lt_trichotomy i j with hlt | heq | hgt
  · have := measure_take_lt hpos hlt hj
    omega
  · exact heq
  · have := measure_take_lt hpos hgt hi
    omega

theorem eq_of_measure_eq (hpos : ∀ c, 0 < width c) {a b x y : List Char} (h : a ++ x = b ++ y)
    (hmeasure : measure width a = measure width b) : a = b := by
  have ha : a = (a ++ x).take a.length := by simp
  have hb : b = (a ++ x).take b.length := by simp [h]
  have hlength : a.length = b.length := by
    refine @measure_take_inj _ hpos (a ++ x) _ _ ?_ ?_ ?_
    · simp
    · simp [h]
    · rw [← ha, ← hb, hmeasure]
  rw [ha, hlength]
  exact hb.symm

/-! ## Entries of the table -/

theorem getElem?_offsets {text : List Char} {i : Nat} (hi : i ≤ text.length) :
    (offsets width text)[i]? = some (measure width (text.take i)) := by
  rw [offsets, List.getElem?_toArray, getElem?_offsetsFrom width 0 text i hi, Nat.zero_add]

theorem getD_offsets {text : List Char} {i : Nat} (hi : i ≤ text.length) :
    (offsets width text).getD i 0 = measure width (text.take i) := by
  rw [Array.getD_eq_getD_getElem?, getElem?_offsets hi, Option.getD_some]

theorem getElem?_offsets_eq_none {text : List Char} {i : Nat} (hi : text.length < i) :
    (offsets width text)[i]? = none := by
  rw [Array.getElem?_eq_none]
  rw [size_offsets]
  omega

theorem lt_lowerBound_offsets_iff {text : List Char} {target i : Nat} (hi : i ≤ text.length) :
    i < lowerBound (offsets width text) target ↔ measure width (text.take i) < target := by
  rw [lt_lowerBound_iff, getD_offsets hi]
  · intro j k hjk hk
    rw [size_offsets] at hk
    rw [getD_offsets (by omega), getD_offsets (by omega)]
    exact measure_take_le width text hjk
  · rw [size_offsets]
    omega

theorem lowerBound_offsets (hpos : ∀ c, 0 < width c) {text : List Char} {i : Nat}
    (hi : i ≤ text.length) :
    lowerBound (offsets width text) (measure width (text.take i)) = i := by
  have hat : ¬ i < lowerBound (offsets width text) (measure width (text.take i)) := by
    rw [lt_lowerBound_offsets_iff hi]
    omega
  rcases Nat.eq_zero_or_pos i with rfl | hi0
  · omega
  · have hbefore : i - 1 < lowerBound (offsets width text) (measure width (text.take i)) := by
      rw [lt_lowerBound_offsets_iff (by omega)]
      exact measure_take_lt hpos (by omega) hi
    omega

end ProseTrace.Proofs.Text.OffsetTable
