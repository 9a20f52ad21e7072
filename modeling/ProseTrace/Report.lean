import ProseTrace.Checker.Backend
import ProseTrace.Config.Options
import ProseTrace.Extract.Builder
import ProseTrace.Finding.Collector
import ProseTrace.Text.Blank

/-!
# Checking a file

The text extracted from a file is checked segment by segment, and what the checker finds is reported
as diagnostics of the file's source.  Segments of white space are passed over; the first check that
fails ends the run.
-/

namespace ProseTrace

open Checker Document Extract Finding

/-- What the checks of one file found, and how many suggestions had no place in its source. -/
structure Report where
  source : Source
  diagnostics : List Diagnostic
  dropped : Nat

namespace Report

variable {σ : Type} [Backend σ]

inductive Failure where
  | lookup (error : LookupError)
  | check (fault : Fault)
  | tooLong (error : Text.Numeral.TooLong)

def configure (options : Config.CheckOptions) (checker : σ) : σ :=
  let taught := options.dictionary.foldl
    (fun s (language, words) => Backend.allowWords s language words) checker
  options.disabledChecks.foldl
    (fun s (language, rules) => Backend.disableChecks s language rules) taught

def checkNote (file : FileId) (language text : String) : Log.Entry :=
  ⟨.debug, s!"Checking {text.length} chars of {file} ({language})"⟩

def dropNotes (file : FileId) (dropped : Nat) : List Log.Entry :=
  if dropped = 0 then []
  else [⟨.debug, s!"{dropped} suggestions in {file} had no source location"⟩]

/-- Check segments one after the other and gather what is found; `fallback` is the language of a
segment without one. -/
def checkSegments (file : FileId) (fallback : String) (collector : Collector) (checker : σ) :
    List Segment → Logged (Except Failure Collector × σ)
  | [] => pure (.ok collector, checker)
  | segment :: rest =>
    if Text.isBlankText segment.text then checkSegments file fallback collector checker rest
    else do
      let language := Config.languageOrDefault segment.language fallback
      Logged.write [checkNote file language segment.text]
      match ← Backend.check checker language segment.text with
      | (.ok found, checker) =>
        match ← collector.gather found segment.mapping with
        | .ok collector => checkSegments file fallback collector checker rest
        | .error error => return (.error (.tooLong error), checker)
      | (.error fault, checker) => return (.error (.check fault), checker)

def ofFile (world : World) (file : FileId) (segments : List Segment) (options : Config.CheckOptions)
    (checker : σ) : Logged (Except Failure Report × σ) :=
  match Collector.start file world with
  | .error error => pure (.error (.lookup error), checker)
  | .ok collector => do
    match ← checkSegments file options.language collector checker segments with
    | (.ok collector, checker) =>
      Logged.write (dropNotes file collector.dropped)
      return (.ok ⟨collector.source, collector.diagnostics, collector.dropped⟩, checker)
    | (.error failure, checker) => return (.error failure, checker)

end Report

end ProseTrace
