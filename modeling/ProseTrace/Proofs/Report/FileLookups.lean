import ProseTrace.Proofs.Document.FilePaths
import ProseTrace.Proofs.Report.CheckedSegments

/-!
# Looking up files below a directory

The file ids of a directory are relative paths, and any text can be one.  If the path leads to a
UTF-8 file there is a source with that id, and every other end of a lookup is reported as a failure
to look up that file, with the obstacle as its reason.  There is one exception: no operating system
takes a path with a NUL, and what it answers then is not reported but escapes, from the collector
and from the check of the file as well.
-/

namespace ProseTrace.Proofs.Report.FileLookups

open ProseTrace.Text ProseTrace.Document ProseTrace.Extract ProseTrace.Finding ProseTrace.Checker
open ProseTrace.Proofs.Document.FilePaths ProseTrace.Proofs.Report.Gathering
open ProseTrace.Proofs.Report.CheckedSegments

/-! ## Lookups -/

/-- No operating system takes the path of this file below this root. -/
def IsRefused (root : Path) (file : FileId) : Prop :=
  '\x00' ∈ file.toList ∨ (Path.ofString file).isAbsolute = false ∧ '\x00' ∈ root.toText.toList

/-- What keeps a path from a text: it leads nowhere, to no file, or to bytes that encode no text. -/
inductive Blocks (tree : FileTree) (p : Path) : Obstacle → Prop where
  | nowhere (error : FileTree.OpenError) (hfind : tree.find p = .error error) :
      Blocks tree p (.cannotOpen error)
  | noFile (place : FileTree.Place) (hfind : tree.find p = .ok place)
      (hplace : place.isFile = false) : Blocks tree p (.cannotOpen .isDirectory)
  | noText (bytes : ByteArray) (hfind : tree.find p = .ok (.file bytes))
      (hinvalid : ¬ bytes.IsValidUTF8) : Blocks tree p .notUtf8

/-- How the lookup of a file ends that is not refused. -/
inductive Ending (tree : FileTree) (p : Path) (file : FileId) :
    Except LookupError Source → Prop where
  | found (bytes : ByteArray) (hfind : tree.find p = .ok (.file bytes))
      (hvalid : bytes.IsValidUTF8) :
      Ending tree p file (.ok ⟨file, Newline.unifyText (String.fromUTF8 bytes hvalid)⟩)
  | blocked (obstacle : Obstacle) (hblocks : Blocks tree p obstacle) :
      Ending tree p file (.error (.unreadable file obstacle))

section

variable {tree : FileTree} {root : Path} {file : FileId}

theorem find_eq_embeddedNul_iff_isRefused :
    tree.find (root.join (Path.ofString file)) = .error .embeddedNul ↔ IsRefused root file := by
  rw [find_eq_embeddedNul_iff, mem_toText_join (by decide) (by decide), IsRefused]

theorem source_of_isRefused (h : IsRefused root file) :
    (World.ofDirectory tree root).source file = .error .embeddedNul := by
  have hfind : tree.find (root.join (Path.ofString file)) = .error .embeddedNul :=
    find_eq_embeddedNul_iff_isRefused.2 h
  simp only [World.ofDirectory, read_of_find_error hfind]

theorem source_of_nowhere {error : FileTree.OpenError}
    (hfind : tree.find (root.join (Path.ofString file)) = .error error)
    (hnul : error ≠ .embeddedNul) :
    (World.ofDirectory tree root).source file = .error (.unreadable file (.cannotOpen error)) := by
  simp only [World.ofDirectory, read_of_find_error hfind]

theorem source_of_noFile {place : FileTree.Place}
    (hfind : tree.find (root.join (Path.ofString file)) = .ok place)
    (hplace : place.isFile = false) :
    (World.ofDirectory tree root).source file =
      .error (.unreadable file (.cannotOpen .isDirectory)) := by
  have hcontents : FileTree.contents place = .error .isDirectory := by
    cases place with
    | file bytes => cases hplace
    | directory path => rfl
    | above => rfl
  simp only [World.ofDirectory, read_of_find hfind, hcontents]

theorem source_of_file {bytes : ByteArray}
    (hfind : tree.find (root.join (Path.ofString file)) = .ok (.file bytes))
    (hvalid : bytes.IsValidUTF8) :
    (World.ofDirectory tree root).source file =
      .ok ⟨file, Newline.unifyText (String.fromUTF8 bytes hvalid)⟩ := by
  have hdecode : World.decode? bytes = some (Newline.unifyText (String.fromUTF8 bytes hvalid)) := by
    rw [World.decode?, String.fromUTF8?, dif_pos hvalid]
    rfl
  simp only [World.ofDirectory, read_of_find hfind, FileTree.contents, hdecode]

theorem source_of_noText {bytes : ByteArray}
    (hfind : tree.find (root.join (Path.ofString file)) = .ok (.file bytes))
    (hinvalid : ¬ bytes.IsValidUTF8) :
    (World.ofDirectory tree root).source file = .error (.unreadable file .notUtf8) := by
  have hdecode : World.decode? bytes = none := by
    rw [World.decode?, String.fromUTF8?, dif_neg hinvalid]
    rfl
  simp only [World.ofDirectory, read_of_find hfind, FileTree.contents, hdecode]

theorem source_ends (tree : FileTree) (h : ¬ IsRefused root file) :
    Ending tree (root.join (Path.ofString file)) file
      ((World.ofDirectory tree root).source file) := by
  cases hfind : tree.find (root.join (Path.ofString file)) with
  | error error =>
    have hnul : error ≠ .embeddedNul := by
      rintro rfl
      exact h (find_eq_embeddedNul_iff_isRefused.1 hfind)
    rw [source_of_nowhere hfind hnul]
    exact .blocked _ (.nowhere error hfind)
  | ok place =>
    cases hplace : place.isFile with
    | false =>
      rw [source_of_noFile hfind hplace]
      exact .blocked _ (.noFile place hfind hplace)
    | true =>
      obtain ⟨bytes, rfl⟩ : ∃ bytes, place = .file bytes := by
        cases place with
        | file bytes => exact ⟨bytes, rfl⟩
        | directory path => cases hplace
        | above => cases hplace
      by_cases hvalid : bytes.IsValidUTF8
      · rw [source_of_file hfind hvalid]
        exact .found bytes hfind hvalid
      · rw [source_of_noText hfind hvalid]
        exact .blocked _ (.noText bytes hfind hvalid)

theorem failure?_eq_none_iff {error : LookupError}
    (herror : (World.ofDirectory tree root).source file = .error error) :
    error.failure? = none ↔ IsRefused root file := by
  constructor
  · intro hnone
    by_contra h
    have hends := source_ends tree h
    rw [herror] at hends
    cases hends
    cases hnone
  · intro h
    rw [source_of_isRefused h] at herror
    cases herror
    rfl

theorem file_eq_of_failure?_eq {error : LookupError}
    (herror : (World.ofDirectory tree root).source file = .error error) {failure : LookupFailure}
    (hfailure : error.failure? = some failure) : failure.file = file := by
  have hrefused : ¬ IsRefused root file := by
    rw [← failure?_eq_none_iff herror, hfailure]
    nofun
  have hends := source_ends tree hrefused
  rw [herror] at hends
  cases hends
  cases hfailure
  rfl

end

/-! ## Collectors and reports -/

section

variable {σ : Type} [Backend σ]

/-- Once there is a source, no check ends as a lookup does. -/
theorem checkSegments_ne_lookup (file : FileId) (fallback : String) (collector : Collector)
    (checker : σ) (segments : List Segment) (error : LookupError) :
    (Report.checkSegments file fallback collector checker segments).value.1 ≠
      .error (.lookup error) := by
  induction segments generalizing collector checker with
  | nil => nofun
  | cons segment rest ih =>
    cases hblank : isBlankText segment.text with
    | true =>
      rw [checkSegments_cons_of_isBlank hblank]
      exact ih collector checker
    | false =>
      obtain ⟨answer, later, hcheck⟩ : ∃ answer later, (Backend.check checker
          (Config.languageOrDefault segment.language fallback) segment.text).value =
            (answer, later) := ⟨_, _, rfl⟩
      cases answer with
      | error fault =>
        rw [value_checkSegments_of_fault hblank hcheck]
        nofun
      | ok found =>
        cases hgather : (collector.gather found segment.mapping).value with
        | error error =>
          rw [value_checkSegments_of_tooLong hblank hcheck hgather]
          nofun
        | ok next =>
          rw [value_checkSegments_cons hblank hcheck hgather]
          exact ih next later

theorem ofFile_ne_lookup {world : World} {file : FileId} {source : Source}
    (h : world.source file = .ok source) (segments : List Segment) (options : Config.CheckOptions)
    (checker : σ) (error : LookupError) :
    (Report.ofFile world file segments options checker).value.1 ≠ .error (.lookup error) := by
  have hchecks := checkSegments_ne_lookup file options.language ⟨source, [], 0, false⟩ checker
    segments error
  rw [value_ofFile_of_ok h]
  rcases hvalue : (Report.checkSegments file options.language ⟨source, [], 0, false⟩ checker
    segments).value with ⟨failure | collector, later⟩
  · rw [hvalue] at hchecks
    exact fun hlookup => hchecks (by rw [Except.error.inj hlookup])
  · nofun

theorem start_eq_error {world : World} {file : FileId} {error : LookupError}
    (h : world.source file = .error error) : Collector.start file world = .error error := by
  rw [Collector.start, h]
  rfl

theorem ofFile_eq_of_error {world : World} {file : FileId} {error : LookupError}
    (h : world.source file = .error error) (segments : List Segment)
    (options : Config.CheckOptions) (checker : σ) :
    Report.ofFile world file segments options checker =
      pure (.error (.lookup error), checker) := by
  rw [Report.ofFile, start_eq_error h]

/-- The lookup of a file whose path is not refused ends with the source that has this id and the
text of the file, or with what blocks the path.  Every error is reported as a failure to look up
this file, except that for a refused path, which is not reported.  As a lookup ends, so do a new
collector and the check of the file, which then asks the checker nothing and logs nothing; after a
lookup that succeeds they never end in this way. -/
theorem lookup_reported_unless_refused (tree : FileTree) (root : Path) (file : FileId)
    (segments : List Segment) (options : Config.CheckOptions) (checker : σ) :
    (¬ IsRefused root file → Ending tree (root.join (Path.ofString file)) file
      ((World.ofDirectory tree root).source file)) ∧
    (∀ source, (World.ofDirectory tree root).source file = .ok source →
      source.id = file ∧
      Collector.start file (World.ofDirectory tree root) = .ok ⟨source, [], 0, false⟩ ∧
      ∀ error, (Report.ofFile (World.ofDirectory tree root) file segments options checker).value.1
        ≠ .error (.lookup error)) ∧
    (∀ error, (World.ofDirectory tree root).source file = .error error →
      (error.failure? = none ↔ IsRefused root file) ∧
      (∀ failure, error.failure? = some failure → failure.file = file) ∧
      Collector.start file (World.ofDirectory tree root) = .error error ∧
      Report.ofFile (World.ofDirectory tree root) file segments options checker =
        pure (.error (.lookup error), checker)) := by
  refine ⟨source_ends tree, ?_, ?_⟩
  · intro source hsource
    exact ⟨World.ofDirectory_source_id hsource, start_eq_ok hsource,
      ofFile_ne_lookup hsource segments options checker⟩
  · intro error herror
    exact ⟨failure?_eq_none_iff herror, fun failure => file_eq_of_failure?_eq herror,
      start_eq_error herror, ofFile_eq_of_error herror segments options checker⟩

end

/-- A NUL escapes, from the world and from the collector. -/
theorem lookup_of_nul_escapes :
    (World.ofDirectory ⟨[], [⟨"", ["root"]⟩]⟩ ⟨"", ["root"]⟩).source "a\x00" =
        .error .embeddedNul ∧
      Collector.start "a\x00" (World.ofDirectory ⟨[], [⟨"", ["root"]⟩]⟩ ⟨"", ["root"]⟩) =
        .error .embeddedNul ∧
      LookupError.embeddedNul.failure? = none := by
  have hsource : (World.ofDirectory ⟨[], [⟨"", ["root"]⟩]⟩ ⟨"", ["root"]⟩).source "a\x00" =
      .error .embeddedNul := source_of_isRefused (Or.inl (by decide))
  exact ⟨hsource, start_eq_error hsource, rfl⟩

end ProseTrace.Proofs.Report.FileLookups
