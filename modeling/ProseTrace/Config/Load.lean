import ProseTrace.Config.Options
import ProseTrace.Config.Toml.Document
import ProseTrace.Document.FileTree

/-!
# Loading a configuration

A configuration is read from a TOML file.  A file that cannot be opened or is malformed is one kind
of fault, options that mean nothing another; bytes that are not UTF-8, integers of too many digits
and values nested too deep are faults of their own.
-/

namespace ProseTrace.Config

open Document

inductive LoadError where
  | cannotOpen (path : String) (error : FileTree.OpenError)
  | malformed (path : String)
  | notUtf8
  | tooLong (error : Text.Numeral.TooLong)
  | tooDeep
  | options (error : OptionError)
  deriving DecidableEq

def LoadError.headline (path : String) : String := s!"Cannot read configuration {path}"

/-- The text of the error.  Behind the headline stands a short text in place of the words of the
operating system or of the reader of documents, and so for what is not reported as a fault of the
configuration. -/
def LoadError.message : LoadError → String
  | .cannotOpen path error => s!"{headline path}: {error.reason}"
  | .malformed path => s!"{headline path}: malformed document"
  | .notUtf8 => "invalid UTF-8"
  | .tooLong error => error.message
  | .tooDeep => "maximum recursion depth exceeded"
  | .options error => error.message

def tableOfBytes (path : String) (bytes : ByteArray) : Except LoadError Table :=
  match String.fromUTF8? bytes with
  | none => .error .notUtf8
  | some text =>
    match Toml.ofText text with
    | .ok table => .ok table
    | .error .malformed => .error (.malformed path)
    | .error (.tooLong error) => .error (.tooLong error)
    | .error .tooDeep => .error .tooDeep

def readTable (tree : FileTree) (path : String) : Except LoadError Table :=
  match tree.readText path with
  | .error error => .error (.cannotOpen path error)
  | .ok bytes => tableOfBytes path bytes

def load (tree : FileTree) (path : String) : Logged (Except LoadError Configuration) :=
  match readTable tree path with
  | .error error => pure (.error error)
  | .ok table => do
    match ← Configuration.ofTable table with
    | .error error => return .error (.options error)
    | .ok configuration => return .ok configuration

end ProseTrace.Config
