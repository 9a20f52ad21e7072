import ProseTrace.Document.FileTree
import ProseTrace.Document.Source
import ProseTrace.Text.Newline

/-!
# Document worlds

A world hands out the sources of a project by their file ids.  One world holds its texts itself; the
other reads UTF-8 files below a directory, where a file id is a relative path, and unifies their
line ends.
-/

namespace ProseTrace.Document

open Text

inductive Obstacle where
  | cannotOpen (error : FileTree.OpenError)
  | notUtf8
  deriving DecidableEq

/-- A short text for the obstacle.  The words of the operating system and of the decoder, with the
path and the place of the bad byte, are not told. -/
def Obstacle.reason : Obstacle → String
  | .cannotOpen error => error.reason
  | .notUtf8 => "invalid UTF-8"

structure LookupFailure where
  file : FileId
  reason : Option String
  deriving DecidableEq

namespace LookupFailure

def headline (f : LookupFailure) : String := s!"Cannot load source for {Quoted.quote f.file}"

def message (f : LookupFailure) : String :=
  match f.reason with
  | some reason => if reason.isEmpty then f.headline else s!"{f.headline}: {reason}"
  | none => f.headline

end LookupFailure

inductive LookupError where
  | unknown (file : FileId)
  | unreadable (file : FileId) (obstacle : Obstacle)
  | embeddedNul
  deriving DecidableEq

/-- The failure to report; a file id that no operating system takes is not even looked up. -/
def LookupError.failure? : LookupError → Option LookupFailure
  | .unknown file => some ⟨file, some "unknown file"⟩
  | .unreadable file obstacle => some ⟨file, some obstacle.reason⟩
  | .embeddedNul => none

def LookupError.message (e : LookupError) : String :=
  match e.failure? with
  | some failure => failure.message
  | none => FileTree.OpenError.embeddedNul.reason

structure World where
  source : FileId → Except LookupError Source

namespace World

/-- The world of these texts; of two texts with one id the last counts. -/
def ofTexts (texts : List (FileId × String)) : World where
  source file :=
    match texts.reverse.lookup file with
    | some text => .ok ⟨file, text⟩
    | none => .error (.unknown file)

def decode? (bytes : ByteArray) : Option String := (String.fromUTF8? bytes).map Newline.unifyText

def ofDirectory (tree : FileTree) (root : Path) : World where
  source file :=
    match tree.read (root.join (Path.ofString file)) with
    | .error .embeddedNul => .error .embeddedNul
    | .error error => .error (.unreadable file (.cannotOpen error))
    | .ok bytes =>
      match decode? bytes with
      | some text => .ok ⟨file, text⟩
      | none => .error (.unreadable file .notUtf8)

theorem ofDirectory_source_id {tree : FileTree} {root : Path} {file : FileId} {source : Source}
    (h : (ofDirectory tree root).source file = .ok source) : source.id = file := by
  simp only [ofDirectory] at h
  split at h
  · cases h
  · cases h
  · split at h
    · cases h; rfl
    · cases h

end World

end ProseTrace.Document
