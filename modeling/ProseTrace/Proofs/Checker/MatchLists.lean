import ProseTrace.Proofs.Checker.FailedChecks
import ProseTrace.Proofs.Checker.MatchReading

/-!
# Lists of matches

The matches of an answer are read one after the other, each of them alone.  So what comes of two
lists of matches one behind the other is told by what comes of each: the first fault, or all
suggestions.  Nothing else in the answer is looked at.
-/

namespace ProseTrace.Proofs.Checker.MatchLists

open ProseTrace.Finding ProseTrace.Checker
open ProseTrace.Proofs.Checker.FailedChecks ProseTrace.Proofs.Checker.MatchReading

def listing (items : List Json) : Json := .object [("matches", .list items)]

/-- What comes of two readings, one behind the other: a fault of the first, one of the second, or
the suggestions of both. -/
def joined {ε α : Type} : Except ε (List α) → Except ε (List α) → Except ε (List α)
  | .error fault, _ => .error fault
  | .ok _, .error fault => .error fault
  | .ok found, .ok more => .ok (found ++ more)

section

variable {α β ε : Type} {read : α → Except ε β}

theorem mapM_append_eq_joined (items more : List α) :
    (items ++ more).mapM read = joined (items.mapM read) (more.mapM read) := by
  rw [List.mapM_append]
  cases items.mapM read with
  | error fault => rfl
  | ok found => cases more.mapM read <;> rfl

theorem mapM_eq_ok_iff {items : List α} {values : List β} :
    items.mapM read = .ok values ↔
      items.Forall₂ (fun item value => read item = .ok value) values := by
  refine ⟨fun h => ?_, mapM_eq_ok_of_forall₂⟩
  induction items generalizing values with
  | nil =>
    obtain rfl := Except.ok.inj h
    exact .nil
  | cons item rest ih =>
    rw [List.mapM_cons] at h
    cases hitem : read item with
    | error fault => rw [hitem] at h; cases h
    | ok value =>
      cases hrest : rest.mapM read with
      | error fault => rw [hitem, hrest] at h; cases h
      | ok others =>
        rw [hitem, hrest] at h
        obtain rfl := Except.ok.inj h
        exact .cons hitem (ih hrest)

theorem mapM_singleton_eq_ok_iff {item : α} {value : β} :
    [item].mapM read = .ok [value] ↔ read item = .ok value := by
  rw [mapM_eq_ok_iff, List.forall₂_cons, and_iff_left .nil]

theorem mapM_singleton_eq_error_iff {item : α} {fault : ε} :
    [item].mapM read = .error fault ↔ read item = .error fault := by
  rw [List.mapM_cons, bind_eq_error_iff]
  exact or_iff_left fun ⟨_, _, h⟩ => nomatch h

end

/-! ## Answers -/

section

variable {text : String}

theorem readMatches_listing_singleton_eq_ok_iff {item : Json} {s : Suggestion} :
    readMatches text (listing [item]) = .ok [s] ↔ readMatch (.ofText text.toList) item = .ok s :=
  mapM_singleton_eq_ok_iff

theorem readMatches_listing_singleton_eq_error_iff {item : Json} {fault : MatchFault} :
    readMatches text (listing [item]) = .error fault ↔
      readMatch (.ofText text.toList) item = .error fault :=
  mapM_singleton_eq_error_iff

theorem readMatches_object_congr {fields others : List (String × Json)}
    (h : Json.lookup? "matches" fields = Json.lookup? "matches" others) :
    readMatches text (.object fields) = readMatches text (.object others) := by
  rw [readMatches, readMatches, valueAt, valueAt, h]

end

/-- Two lists of matches are read one behind the other: a fault of the first list, one of the
second, or the suggestions of both.  So a list that can be read gives one suggestion for each match,
in order, and any other the fault of its first match that cannot be read alone.  Other fields of the
answer change nothing. -/
theorem readMatches_append (text : String) :
    (∀ items more, readMatches text (listing (items ++ more)) =
      joined (readMatches text (listing items)) (readMatches text (listing more))) ∧
    (∀ items found, readMatches text (listing items) = .ok found ↔
      items.Forall₂ (fun item s => readMatches text (listing [item]) = .ok [s]) found) ∧
    (∀ items fault, readMatches text (listing items) = .error fault ↔
      ∃ before item after, items = before ++ item :: after ∧
        (∀ earlier ∈ before, ∃ s, readMatches text (listing [earlier]) = .ok [s]) ∧
        readMatches text (listing [item]) = .error fault) ∧
    (∀ fields others, Json.lookup? "matches" fields = Json.lookup? "matches" others →
      readMatches text (.object fields) = readMatches text (.object others)) := by
  refine ⟨fun items more => ?_, fun items found => ?_, fun items fault => ?_,
    fun _ _ => readMatches_object_congr⟩
  · exact mapM_append_eq_joined items more
  · simp only [readMatches_listing_singleton_eq_ok_iff]
    exact mapM_eq_ok_iff
  · simp only [readMatches_listing_singleton_eq_ok_iff, readMatches_listing_singleton_eq_error_iff]
    exact mapM_eq_error_iff

end ProseTrace.Proofs.Checker.MatchLists
