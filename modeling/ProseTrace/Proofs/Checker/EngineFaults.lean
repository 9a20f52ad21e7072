import ProseTrace.Proofs.Checker.EngineRuns
import ProseTrace.Proofs.Checker.MatchReading

/-!
# Findings at no place

An engine may place a finding in front of the text, or give it a negative size.  The first such
finding of an answer ends the check with a fault of its own, which is no failure of the backend.
All other answers make suggestions, and all other faults are failures of the backend: an engine that
does not start, or one that fails.
-/

namespace ProseTrace.Proofs.Checker.EngineFaults

open ProseTrace.Finding ProseTrace.Checker
open ProseTrace.Proofs.Checker.EngineRuns ProseTrace.Proofs.Checker.FailedChecks
open ProseTrace.Proofs.Checker.MatchReading

/-! ## Findings -/

/-- Why a finding lies at no place: one of its ends is in front of the text, or its end is in front
of its start. -/
inductive Misplaced (finding : EngineFinding) : Suggestion.Invalid → Prop where
  | negative (hends : finding.offset < 0 ∨ finding.offset + finding.length < 0) :
      Misplaced finding .negative
  | reversed (hstart : 0 ≤ finding.offset) (hstop : 0 ≤ finding.offset + finding.length)
      (hlength : finding.length < 0) : Misplaced finding .reversed

/-- The suggestion marks what the finding does, and says the same. -/
structure Repeats (finding : EngineFinding) (s : Suggestion) : Prop where
  start_eq : finding.offset = s.start
  stop_eq : finding.offset + finding.length = s.stop
  remark_eq : finding.remark = s.remark

section

variable {finding : EngineFinding} {findings : List EngineFinding}

theorem suggestionOf_of_repeats {s : Suggestion} (h : Repeats finding s) :
    Bundled.suggestionOf finding = .ok s := by
  rw [Bundled.suggestionOf, h.stop_eq, h.start_eq, h.remark_eq, ofInts_eq_ok]
  rfl

theorem exists_repeats (hoffset : 0 ≤ finding.offset) (hlength : 0 ≤ finding.length) :
    ∃ s, Repeats finding s :=
  ⟨⟨finding.offset.toNat, (finding.offset + finding.length).toNat, finding.remark, by omega⟩,
    by simp only; omega, by simp only; omega, rfl⟩

theorem exists_forall₂_repeats
    (h : ∀ finding ∈ findings, 0 ≤ finding.offset ∧ 0 ≤ finding.length) :
    ∃ found, findings.Forall₂ Repeats found := by
  induction findings with
  | nil => exact ⟨[], .nil⟩
  | cons finding rest ih =>
    obtain ⟨hfirst, hrest⟩ := List.forall_mem_cons.1 h
    obtain ⟨s, hs⟩ := exists_repeats hfirst.1 hfirst.2
    obtain ⟨found, hfound⟩ := ih hrest
    exact ⟨s :: found, .cons hs hfound⟩

theorem suggestionOf_of_misplaced {error : Suggestion.Invalid} (h : Misplaced finding error) :
    Bundled.suggestionOf finding = .error (.invalidSuggestion error) := by
  rw [Bundled.suggestionOf, Suggestion.ofInts]
  cases h with
  | negative hends => rw [if_pos hends]; rfl
  | reversed hstart hstop hlength => rw [if_neg (by omega), dif_neg (by omega)]; rfl

theorem misplaced_or_nonneg (finding : EngineFinding) :
    (∃ error, Misplaced finding error) ∨ 0 ≤ finding.offset ∧ 0 ≤ finding.length := by
  by_cases hends : finding.offset < 0 ∨ finding.offset + finding.length < 0
  · exact .inl ⟨_, .negative hends⟩
  · by_cases hlength : finding.length < 0
    · exact .inl ⟨_, .reversed (by omega) (by omega) hlength⟩
    · exact .inr (by omega)

end

/-! ## Checks -/

/-- An engine runs for the language, or the next one starts. -/
def HasEngine (b : Bundled) (language : String) : Prop :=
  language ∈ b.running ∨ b.starts.headD none = none

/-- The answer lists a finding that lies at no place, for this reason, behind others that do not. -/
def ListsMisplaced (answer : EngineAnswer) (error : Suggestion.Invalid) : Prop :=
  ∃ before finding after, answer = .findings (before ++ finding :: after) ∧
    (∀ earlier ∈ before, 0 ≤ earlier.offset ∧ 0 ≤ earlier.length) ∧ Misplaced finding error

/-- How a check ends with a fault that is no failure of the backend. -/
inductive Escapes (b : Bundled) (language : String) : Fault → Prop where
  | misplaced (error : Suggestion.Invalid) (hengine : HasEngine b language)
      (hanswer : ListsMisplaced (b.answers.headD (.findings [])) error) :
      Escapes b language (.invalidSuggestion error)

section

variable {b : Bundled} {language : String}

theorem result_of_hasEngine (h : HasEngine b language) (text : String) :
    (b.check language text).value.1 =
      (Bundled.readAnswer (b.answers.headD (.findings []))).map
        (b.settings.filter language text) := by
  by_cases hopen : language ∈ b.running
  · rw [value_check_of_mem hopen]
    rfl
  · rw [value_check_of_started hopen (h.resolve_left hopen)]
    rfl

theorem result_of_not_hasEngine (h : ¬ HasEngine b language) (text : String) :
    ∃ reason, (b.check language text).value.1 =
      .error (.backend (.engineNotStarted language reason)) := by
  obtain ⟨hclosed, hstart⟩ := not_or.1 h
  obtain ⟨reason, hreason⟩ := Option.ne_none_iff_exists'.1 hstart
  exact ⟨reason, congrArg Prod.fst (value_check_of_refused hclosed hreason text)⟩

theorem readAnswer_of_listsMisplaced {answer : EngineAnswer} {error : Suggestion.Invalid}
    (h : ListsMisplaced answer error) :
    Bundled.readAnswer answer = .error (.invalidSuggestion error) := by
  obtain ⟨before, finding, after, rfl, hbefore, hmisplaced⟩ := h
  refine mapM_eq_error_iff.2 ⟨before, finding, after, rfl, fun earlier hmem => ?_,
    suggestionOf_of_misplaced hmisplaced⟩
  obtain ⟨s, hs⟩ := exists_repeats (hbefore earlier hmem).1 (hbefore earlier hmem).2
  exact ⟨s, suggestionOf_of_repeats hs⟩

theorem isBackend_or_listsMisplaced {answer : EngineAnswer} {fault : Fault}
    (h : Bundled.readAnswer answer = .error fault) :
    fault.isBackend = true ∨
      ∃ error, fault = .invalidSuggestion error ∧ ListsMisplaced answer error := by
  cases answer with
  | failure reason =>
    obtain rfl := Except.error.inj h
    exact .inl rfl
  | findings found =>
    obtain ⟨before, finding, after, rfl, hbefore, hfinding⟩ := mapM_eq_error_iff.1 h
    have hplaced : ∀ earlier ∈ before, 0 ≤ earlier.offset ∧ 0 ≤ earlier.length := by
      intro earlier hmem
      obtain ⟨s, hs⟩ := hbefore earlier hmem
      refine (misplaced_or_nonneg earlier).resolve_left fun ⟨error, hmisplaced⟩ => ?_
      cases hs.symm.trans (suggestionOf_of_misplaced hmisplaced)
    rcases misplaced_or_nonneg finding with ⟨error, hmisplaced⟩ | ⟨hoffset, hlength⟩
    · have hfault := (suggestionOf_of_misplaced hmisplaced).symm.trans hfinding
      exact .inr ⟨error, (Except.error.inj hfault).symm, before, finding, after, rfl, hplaced,
        hmisplaced⟩
    · obtain ⟨s, hs⟩ := exists_repeats hoffset hlength
      cases hfinding.symm.trans (suggestionOf_of_repeats hs)

end

/-- A check of which all findings lie at places gives them as suggestions, allowed words left out.
A fault of a check is a failure of the backend, unless the engine has listed a finding that lies at
no place: then, and only then, the check ends with the fault of the first such finding. -/
theorem check_fails_or_misplaces (b : Bundled) (language text : String) :
    (∀ findings, HasEngine b language → b.answers.headD (.findings []) = .findings findings →
      (∀ finding ∈ findings, 0 ≤ finding.offset ∧ 0 ≤ finding.length) →
      ∃ found, findings.Forall₂ Repeats found ∧
        (b.check language text).value.1 = .ok (b.settings.filter language text found)) ∧
    (∀ fault, (b.check language text).value.1 = .error fault →
      fault.isBackend = true ∨ Escapes b language fault) ∧
    (∀ fault, Escapes b language fault → (b.check language text).value.1 = .error fault) := by
  refine ⟨fun findings hengine hanswer hplaced => ?_, fun fault hfault => ?_, fun fault h => ?_⟩
  · obtain ⟨found, hfound⟩ := exists_forall₂_repeats hplaced
    have hread : Bundled.readAnswer (.findings findings) = .ok found :=
      mapM_eq_ok_of_forall₂ (hfound.imp fun _ _ => suggestionOf_of_repeats)
    rw [result_of_hasEngine hengine, hanswer, hread]
    exact ⟨found, hfound, rfl⟩
  · by_cases hengine : HasEngine b language
    · rw [result_of_hasEngine hengine] at hfault
      rcases isBackend_or_listsMisplaced (map_eq_error_iff.1 hfault) with
        hbackend | ⟨error, rfl, hlists⟩
      · exact .inl hbackend
      · exact .inr (.misplaced error hengine hlists)
    · obtain ⟨reason, hresult⟩ := result_of_not_hasEngine hengine text
      obtain rfl := Except.error.inj (hresult.symm.trans hfault)
      exact .inl rfl
  · cases h with
    | misplaced error hengine hlists =>
      rw [result_of_hasEngine hengine, readAnswer_of_listsMisplaced hlists]
      rfl

/-- A finding in front of the text leaves the check, and is no failure of the backend. -/
theorem check_frontFinding_escapes :
    ((Bundled.new [] [.findings [⟨-1, 1, ⟨.text "m", [], .text "c", .text "r"⟩⟩]]).check
      "en-US" "abc").value.1 = .error (.invalidSuggestion .negative) ∧
    (Fault.invalidSuggestion .negative).isBackend = false :=
  ⟨rfl, rfl⟩

end ProseTrace.Proofs.Checker.EngineFaults
