import ProseTrace.Document.FileTree
import ProseTrace.Proofs.Text.Separators

/-!
# Which paths are taken

A path has the characters of the names in it, and of its root.  Names can be looked up whatever
their characters are, but no operating system takes a path with a NUL in it.
-/

namespace ProseTrace.Proofs.Document.FilePaths

open ProseTrace.Document ProseTrace.Proofs.Text.Separators

/-! ## Characters of a path -/

section

variable {c : Char}

theorem mem_names_ofString (hslash : c ≠ '/') (hpoint : c ≠ '.') (text : String) :
    (∃ name ∈ (Path.ofString text).names, c ∈ name.toList) ↔ c ∈ text.toList := by
  rw [← mem_pieces hslash]
  constructor
  · rintro ⟨name, hname, hc⟩
    exact ⟨name, (List.mem_filter.1 hname).1, hc⟩
  · rintro ⟨name, hname, hc⟩
    -- A name with the character in it is neither empty nor a point, so it is kept.
    have hempty : name ≠ "" := by
      rintro rfl
      exact List.not_mem_nil hc
    have hhere : name ≠ "." := by
      rintro rfl
      exact hpoint (List.mem_singleton.1 hc)
    exact ⟨name, List.mem_filter.2 ⟨hname, by simp [hempty, hhere]⟩, hc⟩

theorem mem_toText (hslash : c ≠ '/') (hpoint : c ≠ '.') (p : Path) :
    c ∈ p.toText.toList ↔ c ∈ p.root.toList ∨ ∃ name ∈ p.names, c ∈ name.toList := by
  rw [← mem_intercalate hslash, Path.toText]
  split
  next hempty =>
    -- The empty path is written as a point, which the character is not.
    obtain ⟨hroot, hnames⟩ : p.root = "" ∧ p.names = [] := by simpa using hempty
    simp [hroot, hnames, hpoint]
  next =>
    rw [String.toList_append, List.mem_append]
    rfl

/-- A path below a root has the characters of its text, and of the root unless it is absolute. -/
theorem mem_toText_join (hslash : c ≠ '/') (hpoint : c ≠ '.') (root : Path) (file : String) :
    c ∈ (root.join (Path.ofString file)).toText.toList ↔
      c ∈ file.toList ∨ (Path.ofString file).isAbsolute = false ∧ c ∈ root.toText.toList := by
  rw [mem_toText hslash hpoint, mem_toText hslash hpoint, ← mem_names_ofString hslash hpoint file]
  cases habsolute : (Path.ofString file).isAbsolute with
  | true =>
    have hroot : c ∉ (Path.ofString file).root.toList :=
      fun hc => hslash (Path.eq_slash_of_mem_root_ofString hc)
    simp [Path.join_of_isAbsolute habsolute, hroot]
  | false =>
    rw [Path.join, habsolute]
    simp only [Bool.false_eq_true, ↓reduceIte, List.mem_append, or_and_right, exists_or, true_and]
    rw [← or_assoc, or_comm]

end

/-! ## Where a path leads -/

theorem missing_ne_embeddedNul (name : String) : FileTree.missing name ≠ .embeddedNul := by
  unfold FileTree.missing
  split <;> decide

theorem child_ne_embeddedNul (tree : FileTree) (directory : Path) (name : String) :
    tree.child directory name ≠ .error .embeddedNul := by
  intro h
  simp only [FileTree.child] at h
  split at h
  · cases h
  · split at h
    · cases h
    · exact missing_ne_embeddedNul name (Except.error.inj h)

theorem step_ne_embeddedNul (tree : FileTree) (place : FileTree.Place) (name : String) :
    tree.step place name ≠ .error .embeddedNul := by
  intro h
  unfold FileTree.step at h
  cases place with
  | file bytes => cases h
  | above =>
    simp only at h
    split at h
    · cases h
    · exact missing_ne_embeddedNul name (Except.error.inj h)
  | directory path =>
    simp only at h
    split at h
    · cases h
    · split at h
      · cases h
      · exact child_ne_embeddedNul tree path name h

theorem follow_ne_embeddedNul (tree : FileTree) (place : FileTree.Place) (names : List String) :
    tree.follow place names ≠ .error .embeddedNul := by
  unfold FileTree.follow
  induction names generalizing place with
  | nil => simp [pure, Except.pure]
  | cons name rest ih =>
    rw [List.foldlM_cons]
    cases hstep : tree.step place name with
    | error error =>
      intro h
      exact step_ne_embeddedNul tree place name (hstep.trans h)
    | ok next => exact ih next

theorem locate_eq_embeddedNul_iff {tree : FileTree} {text : String} {names : List String} :
    tree.locate text names = .error .embeddedNul ↔ '\x00' ∈ text.toList := by
  unfold FileTree.locate
  rw [← List.contains_iff_mem]
  constructor
  · intro h
    by_contra hnul
    rw [if_neg hnul] at h
    split at h
    · cases h
    · split at h
      · cases h
      · exact follow_ne_embeddedNul _ _ _ h
  · intro hnul
    exact if_pos hnul

theorem find_eq_embeddedNul_iff {tree : FileTree} {p : Path} :
    tree.find p = .error .embeddedNul ↔ '\x00' ∈ p.toText.toList :=
  locate_eq_embeddedNul_iff

theorem read_of_find {tree : FileTree} {p : Path} {place : FileTree.Place}
    (h : tree.find p = .ok place) : tree.read p = FileTree.contents place := by
  rw [FileTree.read, h]
  rfl

theorem read_of_find_error {tree : FileTree} {p : Path} {error : FileTree.OpenError}
    (h : tree.find p = .error error) : tree.read p = .error error := by
  rw [FileTree.read, h]
  rfl

theorem contents_ne_embeddedNul (place : FileTree.Place) :
    FileTree.contents place ≠ .error .embeddedNul := by
  cases place <;> nofun

theorem readText_eq_embeddedNul_iff {tree : FileTree} {path : String} :
    tree.readText path = .error .embeddedNul ↔ '\x00' ∈ path.toList := by
  rw [← @locate_eq_embeddedNul_iff tree path (Path.segments path), FileTree.readText,
    FileTree.findText]
  cases tree.locate path (Path.segments path) with
  | error error =>
    exact ⟨fun h => congrArg Except.error (Except.error.inj h),
      fun h => congrArg Except.error (Except.error.inj h)⟩
  | ok place => exact iff_of_false (contents_ne_embeddedNul place) nofun

end ProseTrace.Proofs.Document.FilePaths
