/-!
# Sets of words

A set of words is kept as its members in strictly ascending order of code points.  So two sets with
the same members are equal, and the members are listed in that order.
-/

namespace ProseTrace.Text

@[ext] structure WordSet where
  toList : List String
  ascending : toList.Pairwise (· < ·)
  deriving DecidableEq

namespace WordSet

instance : Membership String WordSet := ⟨fun s w => w ∈ s.toList⟩

instance (w : String) (s : WordSet) : Decidable (w ∈ s) :=
  inferInstanceAs (Decidable (w ∈ s.toList))

def insertSorted (w : String) : List String → List String
  | [] => [w]
  | x :: rest =>
    if w < x then w :: x :: rest else if x < w then x :: insertSorted w rest else x :: rest

theorem mem_insertSorted {v w : String} {words : List String} :
    v ∈ insertSorted w words ↔ v = w ∨ v ∈ words := by
  induction words with
  | nil => simp [insertSorted]
  | cons x rest ih =>
    unfold insertSorted
    split
    · simp
    · split
      · simp only [List.mem_cons, ih]; grind
      · have hwx : w = x :=
          String.le_antisymm (String.not_lt.1 (by assumption)) (String.not_lt.1 (by assumption))
        simp [hwx]

theorem pairwise_insertSorted {w : String} {words : List String} (h : words.Pairwise (· < ·)) :
    (insertSorted w words).Pairwise (· < ·) := by
  induction words with
  | nil => simp [insertSorted]
  | cons x rest ih =>
    obtain ⟨hx, hrest⟩ := List.pairwise_cons.1 h
    unfold insertSorted
    split
    next hlt =>
      refine List.pairwise_cons.2 ⟨fun y hy => ?_, h⟩
      rcases List.mem_cons.1 hy with rfl | hy
      · exact hlt
      · exact String.lt_trans hlt (hx y hy)
    next =>
      split
      next hgt =>
        refine List.pairwise_cons.2 ⟨fun y hy => ?_, ih hrest⟩
        rcases mem_insertSorted.1 hy with rfl | hy
        · exact hgt
        · exact hx y hy
      next => exact h

def empty : WordSet := ⟨[], List.Pairwise.nil⟩

def insert (s : WordSet) (w : String) : WordSet :=
  ⟨insertSorted w s.toList, pairwise_insertSorted s.ascending⟩

def insertAll (s : WordSet) (words : List String) : WordSet := words.foldl insert s

def ofList (words : List String) : WordSet := empty.insertAll words

def isEmpty (s : WordSet) : Bool := s.toList.isEmpty

theorem mem_def {s : WordSet} {w : String} : w ∈ s ↔ w ∈ s.toList := Iff.rfl

@[simp] theorem not_mem_empty (w : String) : w ∉ empty := by
  simp [mem_def, empty]

@[simp] theorem mem_insert {s : WordSet} {v w : String} : v ∈ s.insert w ↔ v = w ∨ v ∈ s :=
  mem_insertSorted

@[simp] theorem mem_insertAll {s : WordSet} {words : List String} {v : String} :
    v ∈ s.insertAll words ↔ v ∈ words ∨ v ∈ s := by
  induction words generalizing s with
  | nil => simp [insertAll]
  | cons w rest ih =>
    rw [show s.insertAll (w :: rest) = (s.insert w).insertAll rest from rfl, ih, mem_insert]
    simp only [List.mem_cons]
    grind

theorem ext_mem {s t : WordSet} (h : ∀ w, w ∈ s ↔ w ∈ t) : s = t := by
  have hnodup : ∀ u : WordSet, u.toList.Nodup := fun u =>
    u.ascending.imp (S := (· ≠ ·)) fun hab hne => String.lt_irrefl _ (hne ▸ hab)
  have hperm : s.toList.Perm t.toList :=
    (List.perm_ext_iff_of_nodup (hnodup s) (hnodup t)).2 h
  exact WordSet.ext (hperm.eq_of_pairwise (fun _ _ _ _ hab hba => absurd hab (String.lt_asymm hba))
    s.ascending t.ascending)

end WordSet

end ProseTrace.Text
