import Mathlib.Data.List.Basic

/-!
# Texts between separators

A text is taken apart at every character that is a separator, and is these pieces joined again.  A
list of texts that was joined is taken apart where it was joined, and within its members.
-/

namespace ProseTrace.Proofs.Text.Separators

variable {mark : Char}

def pieces (mark : Char) (text : String) : List String :=
  (text.toList.splitOn mark).map String.ofList

theorem pieces_of_not_mem {text : String} (h : mark ∉ text.toList) : pieces mark text = [text] := by
  rw [pieces, List.splitOn_eq_singleton h, List.map_singleton, String.ofList_toList]

theorem pieces_append (first rest : String) :
    pieces mark (first ++ String.singleton mark ++ rest) =
      pieces mark first ++ pieces mark rest := by
  have htext : (first ++ String.singleton mark ++ rest).toList =
      first.toList ++ mark :: rest.toList := by
    simp
  rw [pieces, htext, List.splitOn_append_cons_self, List.map_append]
  rfl

/-- A list is taken apart where it was joined, and within its members. -/
theorem pieces_intercalate {texts : List String} (h : texts ≠ []) :
    pieces mark ((String.singleton mark).intercalate texts) = texts.flatMap (pieces mark) := by
  induction texts with
  | nil => exact absurd rfl h
  | cons text rest ih =>
    cases rest with
    | nil => rw [String.intercalate_singleton, List.flatMap_singleton]
    | cons next more =>
      rw [String.intercalate_cons_cons, pieces_append, ih (List.cons_ne_nil next more)]
      rfl

theorem intercalate_pieces (text : String) :
    (String.singleton mark).intercalate (pieces mark text) = text := by
  apply String.toList_injective
  have hlists : (pieces mark text).map String.toList = text.toList.splitOn mark := by
    rw [pieces, List.map_map]
    exact List.map_id'' (fun _ => String.toList_ofList) _
  calc
    ((String.singleton mark).intercalate (pieces mark text)).toList
    _ = [mark].intercalate ((pieces mark text).map String.toList) := by
      rw [String.toList_intercalate, String.toList_singleton]
    _ = [mark].intercalate (text.toList.splitOn mark) := by rw [hlists]
    _ = text.toList := List.intercalate_splitOn mark

theorem pieces_injective : Function.Injective (pieces mark) :=
  Function.LeftInverse.injective intercalate_pieces

theorem flatMap_pieces {texts : List String} (h : ∀ text ∈ texts, mark ∉ text.toList) :
    texts.flatMap (pieces mark) = texts := by
  induction texts with
  | nil => rfl
  | cons text rest ih =>
    obtain ⟨htext, hrest⟩ := List.forall_mem_cons.1 h
    rw [List.flatMap_cons, pieces_of_not_mem htext, ih hrest]
    rfl

/-! ## Characters of joined texts -/

variable {c : Char}

theorem mem_intercalate (hc : c ≠ mark) (texts : List String) :
    c ∈ ((String.singleton mark).intercalate texts).toList ↔ ∃ text ∈ texts, c ∈ text.toList := by
  induction texts with
  | nil => simp
  | cons text rest ih =>
    cases rest with
    | nil => simp
    | cons next more =>
      rw [String.intercalate_cons_cons, String.toList_append, String.toList_append,
        List.mem_append, List.mem_append, ih, List.exists_mem_cons_iff]
      simp [hc]

theorem mem_pieces (hc : c ≠ mark) (text : String) :
    (∃ piece ∈ pieces mark text, c ∈ piece.toList) ↔ c ∈ text.toList := by
  rw [← mem_intercalate hc, intercalate_pieces]

end ProseTrace.Proofs.Text.Separators
