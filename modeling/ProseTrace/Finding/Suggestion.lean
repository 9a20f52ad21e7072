import ProseTrace.Json.Value

/-!
# Suggestions

A suggestion is a checker's finding on a piece of text, located by character indices.  What the
checker says about it is passed on unread: message, replacements, description and rule are any JSON
values.
-/

namespace ProseTrace.Finding

structure Remark where
  message : Json
  replacements : List Json
  ruleDescription : Json
  ruleId : Json

/-- A remark on the characters from `start` up to, and without, `stop`. -/
@[ext] structure Suggestion where
  start : Nat
  stop : Nat
  remark : Remark
  start_le_stop : start ≤ stop := by omega

namespace Suggestion

inductive Invalid where
  | negative
  | reversed
  deriving DecidableEq

def Invalid.message : Invalid → String
  | .negative => "Suggestion indices cannot be negative"
  | .reversed => "Suggestion invariant violated: start > end"

/-- The suggestion between two integers; a negative index is reported before a reversed pair. -/
def ofInts (start stop : Int) (remark : Remark) : Except Invalid Suggestion :=
  if start < 0 ∨ stop < 0 then .error .negative
  else if h : start ≤ stop then .ok ⟨start.toNat, stop.toNat, remark, Int.toNat_le_toNat h⟩
  else .error .reversed

/-- The items that the suggestion marks, of a list with one for each character; past the end there
are none. -/
def marked {α : Type} (s : Suggestion) (items : List α) : List α :=
  (items.drop s.start).take (s.stop - s.start)

theorem ofInts_eq_error_iff {start stop : Int} {remark : Remark} :
    (∃ e, ofInts start stop remark = .error e) ↔ start < 0 ∨ stop < start := by
  unfold ofInts
  split
  · simp; omega
  · split
    · simp; omega
    · simp; omega

end Suggestion

end ProseTrace.Finding
