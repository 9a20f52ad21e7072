import ProseTrace.Finding.Suggestion
import ProseTrace.Text.WordSet

/-!
# Words and rules of a language

A checker client keeps, for each language, the words that are allowed and the rules that are
disabled. Both only grow.
-/

namespace ProseTrace.Checker

open Finding Text

@[ext] structure Settings where
  allowed : String → WordSet
  disabled : String → WordSet

namespace Settings

def empty : Settings := ⟨fun _ => .empty, fun _ => .empty⟩

def extend (sets : String → WordSet) (language : String) (words : List String) :
    String → WordSet :=
  fun other => if other = language then (sets other).insertAll words else sets other

def allow (s : Settings) (language : String) (words : List String) : Settings :=
  { s with allowed := extend s.allowed language words }

def disable (s : Settings) (language : String) (rules : List String) : Settings :=
  { s with disabled := extend s.disabled language rules }

def isAllowed (s : Settings) (language text : String) (suggestion : Suggestion) : Bool :=
  String.ofList (suggestion.marked text.toList) ∈ s.allowed language

def filter (s : Settings) (language text : String) (suggestions : List Suggestion) :
    List Suggestion :=
  suggestions.filter fun suggestion => !s.isAllowed language text suggestion

@[simp] theorem mem_extend {sets : String → WordSet} {language other w : String}
    {words : List String} :
    w ∈ extend sets language words other ↔ other = language ∧ w ∈ words ∨ w ∈ sets other := by
  unfold extend
  split <;> simp_all

end Settings

end ProseTrace.Checker
