import ProseTrace.Checker.Backend

/-!
# A recording checker

A checker whose answers are laid down in a script, and which keeps a list of all that it was asked.
-/

namespace ProseTrace.Checker

open Finding

inductive Call where
  | allowWords (language : String) (words : List String)
  | disableChecks (language : String) (rules : List String)
  | check (language text : String)
  | close
  deriving DecidableEq

/-- The answers still to come, and what was asked so far; without an answer nothing is found. -/
structure Recorder where
  answers : List (Except Fault (List Suggestion))
  calls : List Call

namespace Recorder

def start (answers : List (Except Fault (List Suggestion))) : Recorder := ⟨answers, []⟩

def record (r : Recorder) (call : Call) : Recorder := { r with calls := r.calls ++ [call] }

def check (r : Recorder) (language text : String) : Except Fault (List Suggestion) × Recorder :=
  (r.answers.headD (.ok []), record { r with answers := r.answers.tail } (.check language text))

instance : Backend Recorder where
  allowWords r language words := r.record (.allowWords language words)
  disableChecks r language rules := r.record (.disableChecks language rules)
  check r language text := pure (r.check language text)
  close r := pure (r.record .close)

end Recorder

end ProseTrace.Checker
