import Mathlib.Order.Bounds.Basic
import ProseTrace.Proofs.Checker.MatchReading
import ProseTrace.Proofs.Extract.RangeMerging

/-!
# Places counted in units

A unit offset leads to the first character at or behind it.  A text of basic characters is not given
a table: its offsets are taken as they are, also those behind its end.  On offsets that are not
negative this makes no difference to what a match marks.  It does to which matches are refused and
to where they may end: the table knows neither places in front of the text nor behind it.
-/

namespace ProseTrace.Proofs.Checker.UnitPlaces

open ProseTrace.Text ProseTrace.Finding ProseTrace.Checker
open ProseTrace.Proofs.Text.OffsetTable ProseTrace.Proofs.Checker.MatchReading

def unitsBefore (text : List Char) (i : Nat) : Nat := measure utf16Width (text.take i)

/-- The table of a text, whatever its characters. -/
def tableOf (text : List Char) : UnitIndex := .table (offsets utf16Width text) text.length

/-! ## The two ways to an index -/

section

variable {text : List Char}

theorem charIndex_ofText_of_isBasic (h : UnitIndex.isBasic text = true) (offset : Int) :
    (UnitIndex.ofText text).charIndex offset = offset := by
  rw [UnitIndex.ofText, if_pos h]
  rfl

theorem ofText_of_not_isBasic (h : ¬ UnitIndex.isBasic text = true) :
    UnitIndex.ofText text = tableOf text := by
  rw [UnitIndex.ofText, if_neg h]
  rfl

theorem unitsBefore_of_isBasic (h : UnitIndex.isBasic text = true) {i : Nat}
    (hi : i ≤ text.length) : unitsBefore text i = i := by
  have hone : ∀ c ∈ text.take i, utf16Width c = 1 := fun c hc =>
    utf16Width_eq_one h c (List.mem_of_mem_take hc)
  rw [unitsBefore, measure_eq_length hone, List.length_take, Nat.min_eq_left hi]

theorem charIndex_tableOf_nonneg (text : List Char) (offset : Int) :
    0 ≤ (tableOf text).charIndex offset := by
  rw [tableOf, UnitIndex.charIndex]
  omega

theorem charIndex_tableOf_le (text : List Char) (offset : Int) :
    (tableOf text).charIndex offset ≤ text.length := by
  rw [tableOf, UnitIndex.charIndex]
  omega

/-- The characters in front of an index from the table are those that begin before the offset. -/
theorem lt_charIndex_tableOf_iff (text : List Char) (i : Nat) (offset : Int) :
    (i : Int) < (tableOf text).charIndex offset ↔
      i < text.length ∧ (unitsBefore text i : Int) < offset := by
  have hchar : (tableOf text).charIndex offset =
      min (lowerBound (offsets utf16Width text) offset.toNat : Int) text.length := rfl
  by_cases hi : i < text.length
  · have hbound : i < lowerBound (offsets utf16Width text) offset.toNat ↔
        unitsBefore text i < offset.toNat := lt_lowerBound_offsets_iff (Nat.le_of_lt hi)
    rw [hchar]
    omega
  · rw [hchar]
    omega

/-- An offset leads to an earlier character than another one if some character begins between. -/
theorem charIndex_tableOf_lt_iff {a b : Int} :
    (tableOf text).charIndex a < (tableOf text).charIndex b ↔
      ∃ i < text.length, a ≤ unitsBefore text i ∧ (unitsBefore text i : Int) < b := by
  constructor
  · intro hlt
    obtain ⟨i, hi⟩ := Int.eq_ofNat_of_zero_le (charIndex_tableOf_nonneg text a)
    rw [hi] at hlt
    obtain ⟨hlength, hbefore⟩ := (lt_charIndex_tableOf_iff text i b).1 hlt
    have hbehind : ¬ (i : Int) < (tableOf text).charIndex a := by
      rw [hi]
      exact lt_irrefl _
    rw [lt_charIndex_tableOf_iff, not_and, not_lt] at hbehind
    exact ⟨i, hlength, hbehind hlength, hbefore⟩
  · rintro ⟨i, hlength, hbehind, hbefore⟩
    have hfront : (i : Int) < (tableOf text).charIndex b :=
      (lt_charIndex_tableOf_iff text i b).2 ⟨hlength, hbefore⟩
    have hnot : ¬ (i : Int) < (tableOf text).charIndex a := fun h => by
      have := ((lt_charIndex_tableOf_iff text i a).1 h).2
      omega
    omega

theorem charIndex_tableOf_mono {a b : Int} (hab : a ≤ b) :
    (tableOf text).charIndex a ≤ (tableOf text).charIndex b := by
  rw [← not_lt, charIndex_tableOf_lt_iff]
  rintro ⟨i, _, hbehind, hbefore⟩
  omega

theorem charIndex_tableOf_of_isBasic (h : UnitIndex.isBasic text = true) {offset : Int}
    (hoffset : 0 ≤ offset) : (tableOf text).charIndex offset = min offset text.length := by
  have hfront : ∀ i : Nat, (i : Int) < (tableOf text).charIndex offset ↔
      i < text.length ∧ (i : Int) < offset := by
    intro i
    rw [lt_charIndex_tableOf_iff]
    refine and_congr_right fun hi => ?_
    rw [unitsBefore_of_isBasic h (Nat.le_of_lt hi)]
  -- either side has the same indices in front
  have hleft := hfront ((tableOf text).charIndex offset).toNat
  have hright := hfront (min offset text.length).toNat
  have hnonneg := charIndex_tableOf_nonneg text offset
  omega

/-- What the table gives, an offset of any text gives when it is cut off at the end. -/
theorem min_charIndex_ofText (text : List Char) {offset : Int} (hoffset : 0 ≤ offset) :
    min ((UnitIndex.ofText text).charIndex offset) text.length =
      (tableOf text).charIndex offset := by
  by_cases hbasic : UnitIndex.isBasic text = true
  · rw [charIndex_ofText_of_isBasic hbasic, charIndex_tableOf_of_isBasic hbasic hoffset]
  · rw [ofText_of_not_isBasic hbasic]
    exact min_eq_left (charIndex_tableOf_le text offset)

theorem charIndex_ofText_mono (text : List Char) {a b : Int} (hab : a ≤ b) :
    (UnitIndex.ofText text).charIndex a ≤ (UnitIndex.ofText text).charIndex b := by
  by_cases hbasic : UnitIndex.isBasic text = true
  · rwa [charIndex_ofText_of_isBasic hbasic, charIndex_ofText_of_isBasic hbasic]
  · rw [ofText_of_not_isBasic hbasic]
    exact charIndex_tableOf_mono hab

theorem charIndex_ofText_nonneg (text : List Char) {offset : Int} (h : 0 ≤ offset) :
    0 ≤ (UnitIndex.ofText text).charIndex offset := by
  have := min_charIndex_ofText text h
  have := charIndex_tableOf_nonneg text offset
  omega

/-- The first character at or behind an offset, or the end of the text if there is none. -/
def IsPlace (text : List Char) (offset : Int) (i : Nat) : Prop :=
  IsLeast {j | offset ≤ unitsBefore text j ∨ j = text.length} i

theorem exists_isPlace (text : List Char) (offset : Int) :
    ∃ i : Nat, (tableOf text).charIndex offset = i ∧ IsPlace text offset i := by
  obtain ⟨i, hi⟩ := Int.eq_ofNat_of_zero_le (charIndex_tableOf_nonneg text offset)
  have hle := charIndex_tableOf_le text offset
  refine ⟨i, hi, ?_, ?_⟩
  · have hnot : ¬ (i : Int) < (tableOf text).charIndex offset := by
      rw [hi]
      exact lt_irrefl _
    rw [lt_charIndex_tableOf_iff] at hnot
    show offset ≤ unitsBefore text i ∨ i = text.length
    omega
  · rintro j (hj : offset ≤ unitsBefore text j ∨ j = text.length)
    have hfront := lt_charIndex_tableOf_iff text j offset
    omega

end

/-! ## What a place marks -/

theorem marked_eq_drop_take {α : Type} (s : Suggestion) (items : List α) :
    s.marked items = (items.take s.stop).drop s.start := by
  rw [Suggestion.marked, List.drop_take]

theorem marked_eq_of_min_eq {α : Type} {s t : Suggestion} {items : List α}
    (hstart : min s.start items.length = min t.start items.length)
    (hstop : min s.stop items.length = min t.stop items.length) :
    s.marked items = t.marked items := by
  have htake : items.take s.stop = items.take t.stop := List.take_eq_take_iff.2 hstop
  have hlength : (items.take t.stop).length ≤ items.length := List.length_take_le' _ _
  rw [marked_eq_drop_take, marked_eq_drop_take, htake]
  apply List.drop_eq_drop_iff.2
  omega

theorem exists_ofInts_eq_ok {start stop : Int} (hstart : 0 ≤ start) (hle : start ≤ stop)
    (remark : Remark) :
    ∃ s, Suggestion.ofInts start stop remark = .ok s ∧ (s.start : Int) = start ∧
      (s.stop : Int) = stop ∧ s.remark = remark := by
  have hnegative : ¬ (start < 0 ∨ stop < 0) := by omega
  rw [Suggestion.ofInts, if_neg hnegative, dif_pos hle]
  exact ⟨_, rfl, Int.toNat_of_nonneg hstart, Int.toNat_of_nonneg (Int.le_trans hstart hle), rfl⟩

section

variable {fields : List (String × Json)} {offset length : Int} {remark : Remark}

theorem exists_readMatch_eq_ok (h : Gives fields offset length remark) {index : UnitIndex}
    (hstart : 0 ≤ index.charIndex offset)
    (hle : index.charIndex offset ≤ index.charIndex (offset + length)) :
    ∃ s, readMatch index (.object fields) = .ok s ∧ (s.start : Int) = index.charIndex offset ∧
      (s.stop : Int) = index.charIndex (offset + length) ∧ s.remark = remark := by
  obtain ⟨s, hmade, hplace⟩ := exists_ofInts_eq_ok hstart hle remark
  refine ⟨s, ?_, hplace⟩
  rw [readMatch_of_gives h, hmade]
  rfl

theorem readMatch_eq_error_iff (h : Gives fields offset length remark) {index : UnitIndex} :
    (∃ error, readMatch index (.object fields) =
        .error (.malformed (.invalidSuggestion error))) ↔
      index.charIndex offset < 0 ∨ index.charIndex (offset + length) < index.charIndex offset := by
  rw [← Suggestion.ofInts_eq_error_iff, readMatch_of_gives h]
  cases Suggestion.ofInts (index.charIndex offset) (index.charIndex (offset + length)) remark <;>
    simp [Except.mapError]

end

/-- Unit offsets lead to characters: the units in front of a character lead to that character, each
offset to the first character at or behind it (where the end of the text stands for all that is
behind), and larger offsets not to earlier characters.  So a match at an offset and of a length that
are not negative marks the same characters, and lies at the same place in a source, as with the
table of the text. -/
theorem charIndex_leads_to_place (text : List Char) :
    (∀ i ≤ text.length, (UnitIndex.ofText text).charIndex (unitsBefore text i) = i) ∧
    (∀ offset, 0 ≤ offset → ∃ i : Nat,
      min ((UnitIndex.ofText text).charIndex offset) text.length = i ∧ IsPlace text offset i) ∧
    (∀ a b, 0 ≤ a → a ≤ b →
      (UnitIndex.ofText text).charIndex a ≤ (UnitIndex.ofText text).charIndex b) ∧
    (∀ fields offset length remark, Gives fields offset length remark → 0 ≤ offset → 0 ≤ length →
      ∃ s t, readMatch (.ofText text) (.object fields) = .ok s ∧
        readMatch (tableOf text) (.object fields) = .ok t ∧
        s.remark = remark ∧ t.remark = remark ∧ s.marked text = t.marked text ∧
        ∀ (mapping : Extract.Mapping) source, mapping.size = text.length →
          mapping.location s source = mapping.location t source) := by
  refine ⟨fun i hi => charIndex_measure_take hi, ?_,
    fun a b _ hab => charIndex_ofText_mono text hab, ?_⟩
  · intro offset hoffset
    rw [min_charIndex_ofText text hoffset]
    exact exists_isPlace text offset
  · intro fields offset length remark hgives hoffset hlength
    have hle : offset ≤ offset + length := by omega
    obtain ⟨s, hs, hsstart, hsstop, hsremark⟩ := exists_readMatch_eq_ok hgives
      (charIndex_ofText_nonneg text hoffset) (charIndex_ofText_mono text hle)
    obtain ⟨t, ht, htstart, htstop, htremark⟩ := exists_readMatch_eq_ok hgives
      (charIndex_tableOf_nonneg text offset) (charIndex_tableOf_mono hle)
    have hmarked : ∀ {α : Type} (items : List α), items.length = text.length →
        s.marked items = t.marked items := by
      intro α items hitems
      have hstart := min_charIndex_ofText text hoffset
      have hstop := min_charIndex_ofText text (Int.le_trans hoffset hle)
      have := charIndex_tableOf_le text offset
      have := charIndex_tableOf_le text (offset + length)
      apply marked_eq_of_min_eq <;> omega
    refine ⟨s, t, hs, ht, hsremark, htremark, hmarked text rfl, fun mapping source hsize => ?_⟩
    rw [Extract.Mapping.location, Extract.Mapping.markedRanges, hmarked mapping.spans hsize]
    rfl

/-! ## Which places are refused -/

/-- The place of a match is refused: in a text of basic characters if its offset or its length is
negative, in any other only if a character begins in front of the offset and not in front of the
end. -/
def Misplaced (text : List Char) (offset length : Int) : Prop :=
  if UnitIndex.isBasic text = true then offset < 0 ∨ length < 0
  else ∃ i < text.length, offset + length ≤ unitsBefore text i ∧ (unitsBefore text i : Int) < offset

theorem misplaced_iff {text : List Char} {offset length : Int} :
    Misplaced text offset length ↔ (UnitIndex.ofText text).charIndex offset < 0 ∨
      (UnitIndex.ofText text).charIndex (offset + length) <
        (UnitIndex.ofText text).charIndex offset := by
  unfold Misplaced
  split
  next hbasic =>
    rw [charIndex_ofText_of_isBasic hbasic, charIndex_ofText_of_isBasic hbasic]
    omega
  next hwide =>
    have hnonneg : ¬ (tableOf text).charIndex offset < 0 :=
      not_lt.2 (charIndex_tableOf_nonneg text offset)
    rw [ofText_of_not_isBasic hwide, charIndex_tableOf_lt_iff]
    exact (or_iff_right hnonneg).symm

theorem not_misplaced_of_nonneg (text : List Char) {offset length : Int} (hoffset : 0 ≤ offset)
    (hlength : 0 ≤ length) : ¬ Misplaced text offset length := by
  have hnonneg := charIndex_ofText_nonneg text hoffset
  have hmono := charIndex_ofText_mono text (show offset ≤ offset + length by omega)
  rw [misplaced_iff]
  omega

/-- The payload lists one match, which gives a place and a remark. -/
def ListsOne (payload : Json) (offset length : Int) (remark : Remark) : Prop :=
  ∃ fields found, payload = .object fields ∧
    Json.lookup? "matches" fields = some (.list [.object found]) ∧
    Gives found offset length remark

theorem readMatches_of_listsOne (text : String) {payload : Json} {offset length : Int}
    {remark : Remark} (h : ListsOne payload offset length remark) :
    ∃ found, Gives found offset length remark ∧ readMatches text payload =
      (readMatch (.ofText text.toList) (.object found)).map fun s => [s] := by
  obtain ⟨fields, found, rfl, hmatches, hgives⟩ := h
  refine ⟨found, hgives, ?_⟩
  have hvalue : valueAt "matches" (.object fields) = .ok (.list [.object found]) := by
    rw [valueAt, hmatches]
  rw [readMatches, hvalue]
  show [Json.object found].mapM (readMatch (.ofText text.toList)) = _
  rw [List.mapM_cons]
  cases readMatch (.ofText text.toList) (.object found) <;> rfl

/-- An answer with one match is refused, as a failure of the backend, just if the place of the match
is; an offset and a length that are not negative never are.  Any other answer makes one suggestion.
It ends inside the text, unless the text has basic characters only and the match ends behind it. -/
theorem readMatches_refuses_misplaced (text : String) (payload : Json) (offset length : Int)
    (remark : Remark) (h : ListsOne payload offset length remark) :
    ((∃ error, (readMatches text payload).mapError MatchFault.toFault =
        .error (.backend (.malformed (.invalidSuggestion error)))) ↔
      Misplaced text.toList offset length) ∧
    (0 ≤ offset → 0 ≤ length → ¬ Misplaced text.toList offset length) ∧
    (¬ Misplaced text.toList offset length →
      ∃ s, readMatches text payload = .ok [s] ∧ s.remark = remark ∧
        (s.stop ≤ text.toList.length ↔
          (UnitIndex.isBasic text.toList = true → offset + length ≤ text.toList.length))) := by
  obtain ⟨found, hgives, hread⟩ := readMatches_of_listsOne text h
  refine ⟨?_, not_misplaced_of_nonneg text.toList, fun hplaced => ?_⟩
  · rw [misplaced_iff, ← readMatch_eq_error_iff hgives, hread]
    constructor
    · rintro ⟨error, hrefused⟩
      cases hmatch : readMatch (.ofText text.toList) (.object found) with
      | ok s => rw [hmatch] at hrefused; cases hrefused
      | error fault =>
        rw [hmatch] at hrefused
        cases fault with
        | malformed reason => cases hrefused; exact ⟨error, rfl⟩
        | infiniteIndex => cases hrefused
    · rintro ⟨error, hmatch⟩
      exact ⟨error, by rw [hmatch]; rfl⟩
  · rw [misplaced_iff, not_or, not_lt, not_lt] at hplaced
    obtain ⟨s, hmatch, _, hstop, hremark⟩ := exists_readMatch_eq_ok hgives hplaced.1 hplaced.2
    refine ⟨s, by rw [hread, hmatch]; rfl, hremark, ?_⟩
    by_cases hbasic : UnitIndex.isBasic text.toList = true
    · rw [charIndex_ofText_of_isBasic hbasic] at hstop
      simp only [hbasic, true_implies]
      omega
    · rw [ofText_of_not_isBasic hbasic] at hstop
      have hle := charIndex_tableOf_le text.toList (offset + length)
      exact iff_of_true (by omega) fun h => absurd h hbasic

def plainRemark : Remark := ⟨.text "m", [], .text "", .text ""⟩

def answerAt (offset length : Int) : Json :=
  .object [("matches", .list [.object [("offset", .integer offset), ("length", .integer length),
    ("message", .text "m")]])]

theorem listsOne_answerAt (offset length : Int) :
    ListsOne (answerAt offset length) offset length plainRemark :=
  ⟨_, _, rfl, rfl, rfl, rfl, rfl, rfl, [], rfl, rfl, rfl⟩

/-- In front of a letter that takes two units a match is not refused. -/
theorem readMatches_accepts_before_wide :
    ∃ s, readMatches "😀" (answerAt (-1) 1) = .ok [s] ∧
      s.remark = plainRemark ∧ s.stop ≤ "😀".toList.length := by
  have hbasic : UnitIndex.isBasic "😀".toList = false := by decide
  have hplaced : ¬ Misplaced "😀".toList (-1) 1 := by
    unfold Misplaced
    rw [hbasic]
    rintro ⟨i, _, _, hbefore⟩
    omega
  obtain ⟨_, _, haccepts⟩ :=
    readMatches_refuses_misplaced "😀" _ (-1) 1 _ (listsOne_answerAt (-1) 1)
  obtain ⟨s, hread, hremark, hstop⟩ := haccepts hplaced
  refine ⟨s, hread, hremark, hstop.2 fun h => ?_⟩
  rw [hbasic] at h
  cases h

/-- The same place is refused in front of a letter of one unit, behind which a match is not. -/
theorem readMatches_depends_on_width :
    readMatches "😀" (answerAt (-1) 1) = .ok [⟨0, 0, plainRemark, by decide⟩] ∧
    readMatches "a" (answerAt (-1) 1) = .error (.malformed (.invalidSuggestion .negative)) ∧
    readMatches "a" (answerAt 1 1) = .ok [⟨1, 2, plainRemark, by decide⟩] ∧
    "a".toList.length = 1 := by
  -- bisection does not recurse on its data, so only the kernel evaluates it
  have hfront : (UnitIndex.ofText "😀".toList).charIndex (-1) = 0 := by decide +kernel
  have hbehind : (UnitIndex.ofText "😀".toList).charIndex (-1 + 1) = 0 := by decide +kernel
  obtain ⟨found, hgives, hread⟩ := readMatches_of_listsOne "😀" (listsOne_answerAt (-1) 1)
  refine ⟨?_, rfl, rfl, rfl⟩
  rw [hread, readMatch_of_gives hgives, hfront, hbehind]
  rfl

end ProseTrace.Proofs.Checker.UnitPlaces
