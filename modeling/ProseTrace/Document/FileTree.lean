import ProseTrace.Document.Path
import ProseTrace.Text.Quoted

/-!
# File trees

The files and directories of a machine, as seen from a working directory.  A path is followed name
by name, as an operating system does: every name but the last must be a directory, and a double
point goes up.  The places of the tree are named by paths from the working directory or from the
root; of the directories between the two nothing else is known.  A name that is looked up and a path
as a whole may have a limited number of bytes only.
-/

namespace ProseTrace.Document

/-- The bytes of the files and the names of the directories that are known. -/
structure FileTree where
  files : List (Path × ByteArray)
  directories : List Path

namespace FileTree

def empty : FileTree := ⟨[], []⟩

inductive Place where
  | file (bytes : ByteArray)
  | directory (path : Path)
  /-- A directory above the working directory. -/
  | above

inductive OpenError where
  | notFound
  | isDirectory
  | notDirectory
  | nameTooLong
  | embeddedNul
  deriving DecidableEq

def OpenError.reason : OpenError → String
  | .notFound => "No such file or directory"
  | .isDirectory => "Is a directory"
  | .notDirectory => "Not a directory"
  | .nameTooLong => "File name too long"
  | .embeddedNul => "embedded null byte"

def maxNameBytes : Nat := 255

def maxPathBytes : Nat := 4095

def file? (t : FileTree) (place : Path) : Option ByteArray := t.files.lookup place

def missing (name : String) : OpenError :=
  if maxNameBytes < name.utf8ByteSize then .nameTooLong else .notFound

def child (t : FileTree) (directory : Path) (name : String) : Except OpenError Place :=
  let path : Path := { directory with names := directory.names ++ [name] }
  match t.file? path with
  | some bytes => .ok (.file bytes)
  | none => if t.directories.contains path then .ok (.directory path) else .error (missing name)

def parent (directory : Path) : Place :=
  if directory.names.isEmpty && !directory.isAbsolute then .above
  else .directory { directory with names := directory.names.dropLast }

def step (t : FileTree) (place : Place) (name : String) : Except OpenError Place :=
  let isHere := name == "" || name == "."
  match place with
  | .file _ => .error .notDirectory
  | .above => if isHere || name == ".." then .ok .above else .error (missing name)
  | .directory path =>
    if isHere then .ok place
    else if name == ".." then .ok (parent path)
    else t.child path name

def follow (t : FileTree) (place : Place) (names : List String) : Except OpenError Place :=
  names.foldlM t.step place

/-- Where a path starts: at the working directory, or at the root. -/
def origin (isAbsolute : Bool) : Place := .directory ⟨if isAbsolute then "/" else "", []⟩

/-- The place that the text of a path leads to, by the names in it: a text without any leads
nowhere. -/
def locate (t : FileTree) (text : String) (names : List String) : Except OpenError Place :=
  if text.toList.contains '\x00' then .error .embeddedNul
  else if text.isEmpty then .error .notFound
  else if maxPathBytes < text.utf8ByteSize then .error .nameTooLong
  else t.follow (origin (Path.ofString text).isAbsolute) names

def find (t : FileTree) (p : Path) : Except OpenError Place := t.locate p.toText p.names

/-- The place that the text of a path leads to, every slash in it counted: a slash at the end asks
for a directory. -/
def findText (t : FileTree) (text : String) : Except OpenError Place :=
  t.locate text (Path.segments text)

def contents : Place → Except OpenError ByteArray
  | .file bytes => .ok bytes
  | _ => .error .isDirectory

def read (t : FileTree) (p : Path) : Except OpenError ByteArray := do contents (← t.find p)

def readText (t : FileTree) (text : String) : Except OpenError ByteArray := do
  contents (← t.findText text)

structure Overlong where
  path : Path
  deriving DecidableEq

def Overlong.message (e : Overlong) : String :=
  s!"[Errno 36] File name too long: {Text.Quoted.quote e.path.toText}"

/-- Whether a path leads to a place of some kind; where it leads nowhere it does not. -/
def leadsTo (t : FileTree) (isWanted : Place → Bool) (p : Path) : Except Overlong Bool :=
  match t.find p with
  | .ok place => .ok (isWanted place)
  | .error .nameTooLong => .error ⟨p⟩
  | .error _ => .ok false

def Place.isFile : Place → Bool
  | .file _ => true
  | _ => false

def isDirectory (t : FileTree) (p : Path) : Except Overlong Bool := t.leadsTo (!·.isFile) p

def isFile (t : FileTree) (p : Path) : Except Overlong Bool := t.leadsTo Place.isFile p

def placeOf (p : Path) : Path where
  root := if p.isAbsolute then "/" else ""
  names := p.names.foldl (fun way name => if name == ".." then way.dropLast else way ++ [name]) []

def way (p : Path) : List Path :=
  (List.range p.names.length).map fun n => placeOf { p with names := p.names.take n }

def addDirectory (t : FileTree) (p : Path) : FileTree :=
  { t with directories := placeOf p :: way p ++ t.directories }

def removeFile (t : FileTree) (p : Path) : FileTree :=
  { t with files := t.files.filter (·.1 != placeOf p) }

def addFile (t : FileTree) (p : Path) (bytes : ByteArray) : FileTree where
  files := (placeOf p, bytes) :: (t.removeFile p).files
  directories := way p ++ t.directories

end FileTree

end ProseTrace.Document
