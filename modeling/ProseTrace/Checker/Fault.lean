import ProseTrace.Document.FileTree
import ProseTrace.Finding.Suggestion
import ProseTrace.Json.Reader

/-!
# Faults of checkers

How a check ends without a result.  Most faults are failures of the backend, and are reported as
such; the others are faults that no backend turns into one.
-/

namespace ProseTrace.Checker

open Finding

inductive Malformed where
  | missingKey (key : String)
  | wrongType
  | noFields
  | notAnInteger
  | invalidSuggestion (error : Suggestion.Invalid)
  deriving DecidableEq

/-- What is told about the fault, apart from that there is one. -/
def Malformed.detail? : Malformed → Option String
  | .missingKey key => some (Text.Quoted.quote key)
  | .invalidSuggestion error => some error.message
  | _ => none

/-- A failure of a checker backend; a failed check has no partial result. -/
inductive BackendError where
  | requestFailed (base reason : String)
  | invalidJson (base : String)
  | malformed (fault : Malformed)
  | jarNotFound (path : String)
  | cannotStart (program reason : String)
  | exitedDuringStartup (code : Option Int)
  | notReady (seconds : String)
  | engineNotStarted (language reason : String)
  | engineFailed (reason : String)
  | reported (text : String)
  deriving DecidableEq

def BackendError.message : BackendError → String
  | .requestFailed base reason => s!"LanguageTool request to {base} failed: {reason}"
  | .invalidJson base => s!"LanguageTool at {base} returned invalid JSON"
  | .malformed fault =>
    match fault.detail? with
    | some detail => s!"Malformed LanguageTool response: {detail}"
    | none => "Malformed LanguageTool response"
  | .jarNotFound path => s!"LanguageTool jar not found at {path}"
  | .cannotStart program reason => s!"Cannot start {Text.Quoted.quote program}: {reason}"
  | .exitedDuringStartup code =>
    let shown := match code with
      | some code => toString code
      | none => "None"
    s!"LanguageTool server exited during startup (code {shown})"
  | .notReady seconds => s!"LanguageTool server did not start within {seconds}s"
  | .engineNotStarted language reason =>
    s!"Cannot start bundled LanguageTool for {language}: {reason}"
  | .engineFailed reason => s!"Bundled LanguageTool check failed: {reason}"
  | .reported text => text

inductive Fault where
  | backend (error : BackendError)
  /-- A match was placed at an infinite number. -/
  | infiniteIndex
  /-- An engine placed a finding where none can be. -/
  | invalidSuggestion (error : Suggestion.Invalid)
  | tooDeep (container : Json.Reader.Container)
  | clientClosed
  /-- A ping ended in an error of the client that is no failure of the connection. -/
  | pingRaised (reason : String)
  /-- The path of a jar cannot be asked for. -/
  | overlong (error : Document.FileTree.Overlong)
  /-- A server was waited for without a limit, and nothing more will come of it. -/
  | endlessWait
  deriving DecidableEq

def Fault.message : Fault → String
  | .backend error => error.message
  | .infiniteIndex => "cannot convert float infinity to integer"
  | .invalidSuggestion error => error.message
  | .tooDeep container =>
    let name := match container with
      | .list => "array"
      | .object => "object"
    s!"maximum recursion depth exceeded while decoding a JSON {name} from a unicode string"
  | .clientClosed => "Cannot send a request, as the client has been closed."
  | .pingRaised reason => reason
  | .overlong error => error.message
  | .endlessWait => "The wait for the server has no end."

def Fault.isBackend : Fault → Bool
  | .backend _ => true
  | _ => false

end ProseTrace.Checker
