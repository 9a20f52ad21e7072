/-!
# File paths

A path is a root and the names below it.  Empty names and single points are dropped when a path is
read, so that each path has one written form; a double point is kept, because what it leads to
depends on the file tree.  A path that begins with exactly two slashes keeps both.
-/

namespace ProseTrace.Document

@[ext] structure Path where
  root : String
  names : List String
  deriving DecidableEq

namespace Path

def segments (text : String) : List String :=
  (text.toList.splitOn '/').map String.ofList

private def rootOf : List Char → String
  | '/' :: '/' :: '/' :: _ => "/"
  | '/' :: '/' :: _ => "//"
  | '/' :: _ => "/"
  | _ => ""

def ofString (text : String) : Path where
  root := rootOf text.toList
  names := (segments text).filter fun name => name != "" && name != "."

def isAbsolute (p : Path) : Bool := p.root != ""

/-- The path `q` seen from the directory `p`; an absolute path stands for itself. -/
def join (p q : Path) : Path :=
  if q.isAbsolute then q else ⟨p.root, p.names ++ q.names⟩

/-- The written form; the empty path is a point. -/
def toText (p : Path) : String :=
  if p.root == "" && p.names.isEmpty then "." else p.root ++ "/".intercalate p.names

/-- The home directories of the users; the empty name is the current user's. -/
abbrev Homes := List (String × String)

inductive HomeError where
  | unknownUser
  /-- No user can have a name with this character. -/
  | embeddedNul
  deriving DecidableEq

def HomeError.message : HomeError → String
  | .unknownUser => "Could not determine home directory."
  | .embeddedNul => "embedded null byte"

/-- The path with a leading tilde, and the user's name behind it, replaced by the home directory. -/
def expandHome (homes : Homes) (p : Path) : Except HomeError Path :=
  match p.isAbsolute, p.names with
  | false, first :: rest =>
    match first.toList with
    | '~' :: user =>
      match homes.lookup (String.ofList user) with
      | some home => .ok ((ofString home).join ⟨"", rest⟩)
      | none => .error (if user.contains '\x00' then .embeddedNul else .unknownUser)
    | _ => .ok p
  | _, _ => .ok p

theorem eq_slash_of_mem_root_ofString {text : String} {c : Char}
    (h : c ∈ (ofString text).root.toList) : c = '/' := by
  unfold ofString rootOf at h
  split at h <;> simp_all

@[simp] theorem join_of_isAbsolute {p q : Path} (h : q.isAbsolute = true) : p.join q = q := by
  simp [join, h]

end Path

end ProseTrace.Document
