import ProseTrace.Config.Value
import ProseTrace.Log
import ProseTrace.Text.Numeral
import ProseTrace.Text.Quoted
import ProseTrace.Text.WordSet

/-!
# Options

The options that select a checker backend, and those of a check: its default language, and the
allowed words and disabled rules of each language.  They are read from a table in a fixed order,
which decides what is reported of several faults; keys that mean nothing are logged first.  A port
may be an integer, unless that is too long to be written.
-/

namespace ProseTrace.Config

inductive OptionError where
  | notBoolean (key : String)
  | notText (key : String)
  | notTable (key : String)
  | notTexts (key language : String)
  | tooLong (error : Text.Numeral.TooLong)
  deriving DecidableEq

def OptionError.message : OptionError → String
  | .notBoolean key => s!"{Text.Quoted.quote key} must be a boolean"
  | .notText key => s!"{Text.Quoted.quote key} must be a string"
  | .notTable key => s!"{Text.Quoted.quote key} must be a table of language to list of strings"
  | .notTexts key language => s!"{key}.{language} must be a list of strings"
  | .tooLong error => error.message

/-- For each of some languages a list of texts, in order. -/
abbrev Vocabulary := List (String × List String)

/-- Which checker backend to use: the bundled one, a jar, or a host and port. -/
@[ext] structure BackendOptions where
  bundled : Bool
  jarLocation : Option String
  host : Option String
  port : Option String
  deriving DecidableEq

@[ext] structure CheckOptions where
  language : String
  dictionary : Vocabulary
  disabledChecks : Vocabulary
  deriving DecidableEq

@[ext] structure Configuration where
  backend : BackendOptions
  check : CheckOptions
  deriving DecidableEq

def defaultLanguage : String := "en-US"

def CheckOptions.default : CheckOptions := ⟨defaultLanguage, [], []⟩

/-- A boolean, false if absent. -/
def readBoolean (table : Table) (key : String) : Except OptionError Bool :=
  match table.lookup key with
  | none => .ok false
  | some (.boolean value) => .ok value
  | some _ => .error (.notBoolean key)

def asText (key : String) : Value → Except OptionError (Option String)
  | .null => .ok none
  | .text value => .ok (some value)
  | _ => .error (.notText key)

def readText (table : Table) (key : String) : Except OptionError (Option String) :=
  asText key ((table.lookup key).getD .null)

/-- The value of the port, an integer as its digits. -/
def writtenPort (table : Table) : Except OptionError Value :=
  match table.lookup "port" with
  | some (.integer value) =>
    ((Text.Numeral.write value).map Value.text).mapError OptionError.tooLong
  | other => .ok (other.getD .null)

def texts? : List Value → Option (List String)
  | [] => some []
  | .text value :: rest => (texts? rest).map (value :: ·)
  | _ :: _ => none

/-- The lists of texts in a table of languages; the first bad one is reported. -/
def readTexts (key : String) : Table → Except OptionError Vocabulary
  | [] => .ok []
  | (language, value) :: rest =>
    match value with
    | .list items =>
      match texts? items with
      | some texts => do return (language, texts) :: (← readTexts key rest)
      | none => .error (.notTexts key language)
    | _ => .error (.notTexts key language)

def readVocabulary (table : Table) (key : String) : Except OptionError Vocabulary :=
  match table.lookup key with
  | none => .ok []
  | some (.table entries) => readTexts key entries
  | some _ => .error (.notTable key)

def BackendOptions.ofTable (table : Table) : Except OptionError BackendOptions := do
  let bundled ← readBoolean table "bundled"
  let port ← writtenPort table
  let jarLocation ← readText table "jar_location"
  let host ← readText table "host"
  return ⟨bundled, jarLocation, host, ← asText "port" port⟩

/-- The language itself, or the default one in place of none or an empty one. -/
def languageOrDefault (language : Option String) (fallback : String) : String :=
  match language with
  | some name => if name.isEmpty then fallback else name
  | none => fallback

def CheckOptions.ofTable (table : Table) : Except OptionError CheckOptions := do
  let language ← readText table "language"
  let dictionary ← readVocabulary table "dictionary"
  let disabledChecks ← readVocabulary table "disabled_checks"
  return ⟨languageOrDefault language defaultLanguage, dictionary, disabledChecks⟩

def knownKeys : List String :=
  ["bundled", "jar_location", "host", "port", "language", "dictionary", "disabled_checks"]

def unknownKeys (table : Table) : Text.WordSet :=
  .ofList ((table.map (·.1)).filter fun key => !knownKeys.contains key)

def unknownKeyNote (key : String) : Log.Entry :=
  ⟨.warning, s!"Ignoring unknown configuration key {Text.Quoted.quote key}"⟩

def Configuration.ofTable (table : Table) : Logged (Except OptionError Configuration) where
  value := do
    let backend ← BackendOptions.ofTable table
    let check ← CheckOptions.ofTable table
    return ⟨backend, check⟩
  entries := (unknownKeys table).toList.map unknownKeyNote

end ProseTrace.Config
