import ProseTrace.Checker.Fault
import ProseTrace.Checker.Settings
import ProseTrace.Log

/-!
# The bundled checker

A checker that runs in an engine of its own for each language.  An engine is started at the first
check of its language and serves until the checker is closed.  How starts and checks turn out is
laid down in scripts.
-/

namespace ProseTrace.Checker

open Finding

/-- What an engine says about a piece of text, placed by character indices. -/
structure EngineFinding where
  offset : Int
  length : Int
  remark : Remark

inductive EngineAnswer where
  | findings (found : List EngineFinding)
  | failure (reason : String)

inductive EngineEvent where
  | start (language : String)
  | check (language : String) (disabled : List String) (text : String)
  | close (language : String)
  deriving DecidableEq

/-- The bundled checker: its settings, the languages of its engines in the order of their starts,
how the next starts and checks turn out (a reason for each start that fails), and what was done. -/
structure Bundled where
  settings : Settings
  running : List String
  starts : List (Option String)
  answers : List EngineAnswer
  events : List EngineEvent

namespace Bundled

def new (starts : List (Option String)) (answers : List EngineAnswer) : Bundled :=
  ⟨.empty, [], starts, answers, []⟩

def allowWords (b : Bundled) (language : String) (words : List String) : Bundled :=
  { b with settings := b.settings.allow language words }

def disableChecks (b : Bundled) (language : String) (rules : List String) : Bundled :=
  { b with settings := b.settings.disable language rules }

def ensureEngine (b : Bundled) (language : String) : Logged (Except Fault Unit × Bundled) := do
  if language ∈ b.running then return (.ok (), b)
  Logged.note .info s!"Starting bundled LanguageTool for {language}"
  let started := { b with starts := b.starts.tail, events := b.events ++ [.start language] }
  match b.starts.headD none with
  | some reason => return (.error (.backend (.engineNotStarted language reason)), started)
  | none => return (.ok (), { started with running := b.running ++ [language] })

def suggestionOf (finding : EngineFinding) : Except Fault Suggestion :=
  (Suggestion.ofInts finding.offset (finding.offset + finding.length) finding.remark).mapError
    Fault.invalidSuggestion

/-- The suggestions in an engine's answer, before allowed words are left out. -/
def readAnswer : EngineAnswer → Except Fault (List Suggestion)
  | .findings found => found.mapM suggestionOf
  | .failure reason => .error (.backend (.engineFailed reason))

def askEngine (b : Bundled) (language text : String) :
    Except Fault (List Suggestion) × Bundled :=
  let disabled := (b.settings.disabled language).toList
  let result := readAnswer (b.answers.headD (.findings []))
  (result.map (b.settings.filter language text),
    { b with answers := b.answers.tail, events := b.events ++ [.check language disabled text] })

def check (b : Bundled) (language text : String) :
    Logged (Except Fault (List Suggestion) × Bundled) := do
  match ← b.ensureEngine language with
  | (.ok (), b) => return b.askEngine language text
  | (.error fault, b) => return (.error fault, b)

def close (b : Bundled) : Bundled :=
  { b with running := [], events := b.events ++ b.running.map .close }

end Bundled

end ProseTrace.Checker
