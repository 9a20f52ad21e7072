import ProseTrace.Document.World
import ProseTrace.Extract.Mapping
import ProseTrace.Finding.Diagnostic
import ProseTrace.Json.Inline
import ProseTrace.Log
import ProseTrace.Text.Numeral

/-!
# Collecting the diagnostics of a file

A collector turns suggestions on the segments of one file into diagnostics of its source.
Suggestions without a place in the source are dropped, counted and logged; one whose indices are too
long for the log ends the collecting.  Once finished, a collector takes nothing more.
-/

namespace ProseTrace.Finding

open Document Extract Text

/-- The diagnostics of one source so far, and the number of suggestions dropped. -/
structure Collector where
  source : Source
  diagnostics : List Diagnostic
  dropped : Nat
  finished : Bool

namespace Collector

structure AlreadyFinished where
  deriving DecidableEq

def AlreadyFinished.message (_ : AlreadyFinished) : String := "FileCollector already finished"

inductive AddError where
  | finished (error : AlreadyFinished)
  | tooLong (error : Numeral.TooLong)
  deriving DecidableEq

def start (file : FileId) (world : World) : Except LookupError Collector := do
  return ⟨← world.source file, [], 0, false⟩

def place? (source : Source) (mapping : Mapping) (suggestion : Suggestion) : Option Diagnostic :=
  match mapping.location suggestion source with
  | [] => none
  | locations => some (.ofSuggestion suggestion locations)

/-- What is logged about a suggestion without a place, if its indices can be written. -/
def dropNote (source : Source) (suggestion : Suggestion) :
    Except Numeral.TooLong Log.Entry := do
  let start ← Numeral.write suggestion.start
  let stop ← Numeral.write suggestion.stop
  return ⟨.debug, s!"Dropping unmappable suggestion {suggestion.remark.ruleId.inlined} " ++
    s!"[{start}, {stop}) in {source.id}"⟩

def keep (c : Collector) (diagnostic : Diagnostic) : Collector :=
  { c with diagnostics := c.diagnostics ++ [diagnostic] }

def drop (c : Collector) : Collector := { c with dropped := c.dropped + 1 }

/-- Take in one suggestion.  One that cannot be logged is counted all the same. -/
def take (c : Collector) (mapping : Mapping) (suggestion : Suggestion) :
    Logged (Except Numeral.TooLong Unit × Collector) :=
  match place? c.source mapping suggestion with
  | some diagnostic => pure (.ok (), c.keep diagnostic)
  | none =>
    match dropNote c.source suggestion with
    | .ok entry => ⟨(.ok (), c.drop), [entry]⟩
    | .error error => pure (.error error, c.drop)

/-- Take in suggestions up to the first that cannot be logged; those before it stay taken in. -/
def takeAll (c : Collector) (mapping : Mapping) :
    List Suggestion → Logged (Except Numeral.TooLong Unit × Collector)
  | [] => pure (.ok (), c)
  | suggestion :: rest => do
    match ← c.take mapping suggestion with
    | (.ok (), next) => next.takeAll mapping rest
    | (.error error, next) => return (.error error, next)

def gather (c : Collector) (suggestions : List Suggestion) (mapping : Mapping) :
    Logged (Except Numeral.TooLong Collector) := do
  match ← c.takeAll mapping suggestions with
  | (.ok (), next) => return .ok next
  | (.error error, _) => return .error error

def add (c : Collector) (suggestions : List Suggestion) (mapping : Mapping) :
    Logged (Except AddError Unit × Collector) :=
  if c.finished then pure (.error (.finished {}), c)
  else Prod.map (Except.mapError AddError.tooLong) id <$> c.takeAll mapping suggestions

/-- The source and its diagnostics, and the collector that takes nothing more. -/
def finish (c : Collector) : Except AlreadyFinished ((Source × List Diagnostic) × Collector) :=
  if c.finished then .error {} else .ok ((c.source, c.diagnostics), { c with finished := true })

theorem place?_eq_none_iff {source : Source} {mapping : Mapping} {suggestion : Suggestion} :
    place? source mapping suggestion = none ↔ mapping.location suggestion source = [] := by
  unfold place?; split <;> simp_all

end Collector

end ProseTrace.Finding
