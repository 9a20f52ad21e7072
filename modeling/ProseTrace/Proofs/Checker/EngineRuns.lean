import Mathlib.Data.List.Induction
import ProseTrace.Proofs.Checker.FailedChecks

/-!
# Runs of the bundled checker

The bundled checker is called in any order while starts and checks of its engines may fail.  Its
history tells which engines are open.  Over the whole run a start is tried only where no engine is
open, and a check or a close happens only to one that is; so the deeds of each language are services
that end with a close, one after the other, and perhaps one that still goes on.
-/

namespace ProseTrace.Proofs.Checker.EngineRuns

open ProseTrace.Text ProseTrace.Finding ProseTrace.Checker
open ProseTrace.Proofs.Checker.SettingRuns ProseTrace.Proofs.Checker.FailedChecks

/-! ## Histories -/

inductive Deed where
  | failedStart
  | started
  | checked (rules : List String) (text : String)
  | closed
  deriving DecidableEq

/-- The deed is a start, successful or not. -/
def Deed.isStart : Deed → Bool
  | .failedStart => true
  | .started => true
  | _ => false

structure Happening where
  language : String
  deed : Deed
  deriving DecidableEq

def isStart : EngineEvent → Bool
  | .start _ => true
  | _ => false

/-- What happened in these events, when their starts turn out by the script. -/
def happenings : List (Option String) → List EngineEvent → List Happening
  | _, [] => []
  | starts, .start language :: rest =>
    ⟨language, if (starts.headD none).isSome then .failedStart else .started⟩ ::
      happenings starts.tail rest
  | starts, .check language rules text :: rest =>
    ⟨language, .checked rules text⟩ :: happenings starts rest
  | starts, .close language :: rest => ⟨language, .closed⟩ :: happenings starts rest

/-- The languages with an open engine, behind one more happening. -/
def openAfter (engines : List String) (h : Happening) : List String :=
  match h.deed with
  | .started => engines ++ [h.language]
  | .closed => engines.erase h.language
  | _ => engines

/-- The languages with an open engine, in the order of the starts. -/
def openEngines (history : List Happening) : List String := history.foldl openAfter []

/-- At no moment a language has two open engines, and a start is tried just where it has none. -/
structure Orderly (history : List Happening) : Prop where
  nodup : ∀ seen, seen <+: history → (openEngines seen).Nodup
  isStart_iff : ∀ seen h, seen ++ [h] <+: history →
    (h.deed.isStart = true ↔ h.language ∉ openEngines seen)

def deedsOf (language : String) (history : List Happening) : List Deed :=
  (history.filter fun h => h.language = language).map Happening.deed

/-- Failed starts, a successful one, and checks. -/
def IsService (deeds : List Deed) : Prop :=
  ∃ failures checks, deeds = failures ++ .started :: checks ∧
    (∀ deed ∈ failures, deed = .failedStart) ∧
    ∀ deed ∈ checks, ∃ rules text, deed = .checked rules text

/-- Services that were closed, and then one that goes on, or failed starts only if none does. -/
def Cycles (isOpen : Prop) (deeds : List Deed) : Prop :=
  ∃ (services : List (List Deed)) (current : List Deed),
    deeds = services.flatMap (· ++ [.closed]) ++ current ∧
    (∀ service ∈ services, IsService service) ∧
    (isOpen → IsService current) ∧ (¬ isOpen → ∀ deed ∈ current, deed = .failedStart)

section

variable {history : List Happening} {h : Happening} {engines : List String} {language : String}

theorem happenings_append (starts : List (Option String)) (events more : List EngineEvent) :
    happenings starts (events ++ more) = happenings starts events ++
      happenings (starts.drop (events.countP isStart)) more := by
  induction events generalizing starts with
  | nil => rfl
  | cons event rest ih =>
    rw [List.cons_append, List.countP_cons]
    cases event with
    | start language =>
      rw [happenings, happenings, ih, List.drop_tail]
      rfl
    | check language rules text =>
      rw [happenings, happenings, ih]
      rfl
    | close language =>
      rw [happenings, happenings, ih]
      rfl

theorem openEngines_append (history more : List Happening) :
    openEngines (history ++ more) = more.foldl openAfter (openEngines history) := by
  rw [openEngines, List.foldl_append]
  rfl

theorem openEngines_concat (history : List Happening) (h : Happening) :
    openEngines (history ++ [h]) = openAfter (openEngines history) h := openEngines_append _ _

theorem nodup_openAfter (hnodup : engines.Nodup)
    (hstart : h.deed.isStart = true → h.language ∉ engines) : (openAfter engines h).Nodup := by
  unfold openAfter
  split
  next hdeed =>
    have hnew : h.language ∉ engines := hstart (by rw [hdeed]; rfl)
    have hlast : [h.language].Nodup := List.nodup_cons.2 ⟨List.not_mem_nil, List.nodup_nil⟩
    refine List.nodup_append.2 ⟨hnodup, hlast, fun other hother _ hself => ?_⟩
    rintro rfl
    exact hnew (List.mem_singleton.1 hself ▸ hother)
  next => exact hnodup.erase _
  next => exact hnodup

theorem mem_openAfter_of_ne (hne : h.language ≠ language) :
    language ∈ openAfter engines h ↔ language ∈ engines := by
  unfold openAfter
  split
  · simp [Ne.symm hne]
  · exact List.mem_erase_of_ne (Ne.symm hne)
  · exact Iff.rfl

theorem orderly_nil : Orderly [] :=
  ⟨fun seen hseen => by rw [List.prefix_nil.1 hseen]; exact List.nodup_nil,
    fun _ _ hseen => absurd (List.prefix_nil.1 hseen) (by simp)⟩

theorem Orderly.concat (ho : Orderly history)
    (hstart : h.deed.isStart = true ↔ h.language ∉ openEngines history) :
    Orderly (history ++ [h]) := by
  constructor
  · intro seen hseen
    rcases List.prefix_concat_iff.1 hseen with rfl | hseen
    · rw [openEngines_concat]
      exact nodup_openAfter (ho.nodup history List.prefix_rfl) hstart.1
    · exact ho.nodup seen hseen
  · intro seen other hseen
    rcases List.prefix_concat_iff.1 hseen with heq | hseen
    · obtain ⟨rfl, hlast⟩ := List.append_inj' heq rfl
      obtain rfl : other = h := List.head_eq_of_cons_eq hlast
      exact hstart
    · exact ho.isStart_iff seen other hseen

theorem Orderly.of_concat (ho : Orderly (history ++ [h])) :
    Orderly history ∧ (h.deed.isStart = true ↔ h.language ∉ openEngines history) :=
  ⟨⟨fun seen hseen => ho.nodup seen (hseen.trans (List.prefix_append _ _)),
    fun seen other hseen => ho.isStart_iff seen other (hseen.trans (List.prefix_append _ _))⟩,
    ho.isStart_iff history h List.prefix_rfl⟩

/-! ## Closing -/

theorem foldl_openAfter_closed (engines : List String) :
    (engines.map fun language => Happening.mk language .closed).foldl openAfter engines = [] := by
  induction engines with
  | nil => rfl
  | cons language rest ih =>
    rw [List.map_cons, List.foldl_cons]
    have hfirst : openAfter (language :: rest) ⟨language, .closed⟩ = rest :=
      List.erase_cons_head language rest
    rw [hfirst, ih]

theorem Orderly.append_closed (ho : Orderly history) (hopen : openEngines history = engines) :
    Orderly (history ++ engines.map fun language => ⟨language, .closed⟩) := by
  induction engines generalizing history with
  | nil => rwa [List.map_nil, List.append_nil]
  | cons language rest ih =>
    rw [List.map_cons, List.append_cons]
    apply ih
    · have hmem : language ∈ openEngines history := hopen ▸ List.mem_cons_self
      exact ho.concat ⟨(fun hstart => nomatch hstart), fun hclosed => absurd hmem hclosed⟩
    · rw [openEngines_concat, hopen]
      exact List.erase_cons_head language rest

/-! ## Services -/

theorem deedsOf_concat (language : String) (history : List Happening) (h : Happening) :
    deedsOf language (history ++ [h]) =
      deedsOf language history ++ if h.language = language then [h.deed] else [] := by
  rw [deedsOf, List.filter_append, List.map_append]
  congr 1
  by_cases hlanguage : h.language = language <;> simp [hlanguage]

theorem IsService.concat {deeds : List Deed} (hs : IsService deeds) (rules : List String)
    (text : String) : IsService (deeds ++ [.checked rules text]) := by
  obtain ⟨failures, checks, rfl, hfailures, hchecks⟩ := hs
  refine ⟨failures, checks ++ [.checked rules text], by simp, hfailures, ?_⟩
  exact List.forall_mem_append.2 ⟨hchecks, List.forall_mem_singleton.2 ⟨rules, text, rfl⟩⟩

theorem Cycles.concat {isOpen isOpenAfter : Prop} {deeds : List Deed} {deed : Deed}
    (hc : Cycles isOpen deeds) (hstart : deed.isStart = true ↔ ¬ isOpen)
    (hafter : isOpenAfter ↔ deed = .started ∨ deed ≠ .closed ∧ isOpen) :
    Cycles isOpenAfter (deeds ++ [deed]) := by
  obtain ⟨services, current, rfl, hservices, hserving, hfailing⟩ := hc
  cases deed with
  | failedStart =>
    have hclosed : ¬ isOpen := hstart.1 rfl
    have hstill : ¬ isOpenAfter := by simp [hafter, hclosed]
    refine ⟨services, current ++ [.failedStart], List.append_assoc _ _ _, hservices,
      fun hopen => absurd hopen hstill, fun _ => ?_⟩
    exact List.forall_mem_append.2 ⟨hfailing hclosed, List.forall_mem_singleton.2 rfl⟩
  | started =>
    have hopen : isOpenAfter := hafter.2 (.inl rfl)
    refine ⟨services, current ++ [.started], List.append_assoc _ _ _, hservices,
      fun _ => ⟨current, [], rfl, hfailing (hstart.1 rfl), (fun _ hdeed => nomatch hdeed)⟩,
      fun hclosed => absurd hopen hclosed⟩
  | checked rules text =>
    have hopen : isOpen := not_not.1 fun hclosed => nomatch hstart.2 hclosed
    have hstill : isOpenAfter := hafter.2 (.inr ⟨(fun heq => nomatch heq), hopen⟩)
    exact ⟨services, current ++ [.checked rules text], List.append_assoc _ _ _, hservices,
      fun _ => (hserving hopen).concat rules text, fun hclosed => absurd hstill hclosed⟩
  | closed =>
    have hopen : isOpen := not_not.1 fun hclosed => nomatch hstart.2 hclosed
    have hdone : ¬ isOpenAfter := by simp [hafter]
    refine ⟨services ++ [current], [], by simp, ?_, fun hstill => absurd hstill hdone,
      fun _ _ hdeed => nomatch hdeed⟩
    exact List.forall_mem_append.2 ⟨hservices, List.forall_mem_singleton.2 (hserving hopen)⟩

theorem mem_openAfter_self (hnodup : engines.Nodup) :
    h.language ∈ openAfter engines h ↔
      h.deed = .started ∨ h.deed ≠ .closed ∧ h.language ∈ engines := by
  unfold openAfter
  split
  next hdeed => simp [hdeed]
  next hdeed => simp [hdeed, hnodup.mem_erase_iff]
  next hstarted hclosed =>
    exact ⟨fun hmem => .inr ⟨hclosed, hmem⟩, fun h => (h.resolve_left hstarted).2⟩

/-- In an orderly history the deeds of each language are services, one after the other. -/
theorem Orderly.cycles (ho : Orderly history) (language : String) :
    Cycles (language ∈ openEngines history) (deedsOf language history) := by
  induction history using List.reverseRecOn with
  | nil => exact ⟨[], [], rfl, (fun _ h => nomatch h), (fun h => nomatch h), fun _ _ h => nomatch h⟩
  | append_singleton history h ih =>
    obtain ⟨hbefore, hstart⟩ := ho.of_concat
    rw [deedsOf_concat, openEngines_concat]
    by_cases hlanguage : h.language = language
    · subst hlanguage
      rw [if_pos rfl]
      exact (ih hbefore).concat hstart
        (mem_openAfter_self (hbefore.nodup history List.prefix_rfl))
    · rw [if_neg hlanguage, List.append_nil, mem_openAfter_of_ne hlanguage]
      exact ih hbefore

end

/-! ## Checks -/

section

variable {b : Bundled} {language : String}

theorem value_check_of_mem (h : language ∈ b.running) (text : String) :
    (b.check language text).value = b.askEngine language text := by
  rw [Bundled.check, Bundled.ensureEngine, if_pos h]
  rfl

theorem value_check_of_refused {reason : String} (h : language ∉ b.running)
    (hstart : b.starts.headD none = some reason) (text : String) :
    (b.check language text).value = (.error (.backend (.engineNotStarted language reason)),
      { b with starts := b.starts.tail, events := b.events ++ [.start language] }) := by
  rw [Bundled.check, Bundled.ensureEngine, if_neg h]
  simp only [hstart]
  rfl

theorem value_check_of_started (h : language ∉ b.running) (hstart : b.starts.headD none = none)
    (text : String) :
    (b.check language text).value =
      Bundled.askEngine { b with
        starts := b.starts.tail
        events := b.events ++ [.start language]
        running := b.running ++ [language] } language text := by
  rw [Bundled.check, Bundled.ensureEngine, if_neg h]
  simp only [hstart]
  rfl

end

/-! ## The state behind a run -/

/-- The bundled checker behind these calls, when its starts turn out by the script. -/
structure Stands (starts : List (Option String)) (calls : List Call) (b : Bundled) : Prop where
  settings_eq : b.settings = settingsAfter calls
  starts_eq : b.starts = starts.drop (b.events.countP isStart)
  running_eq : openEngines (happenings starts b.events) = b.running
  orderly : Orderly (happenings starts b.events)

/-- The rules that these calls disabled in a language, in ascending order and each of them once. -/
structure ListsRules (calls : List Call) (language : String) (rules : List String) : Prop where
  ascending : rules.Pairwise (· < ·)
  mem_iff : ∀ rule, rule ∈ rules ↔ rule ∈ rulesDisabled language calls

/-- How a check behind these calls ends and what has happened then: an open engine checks the text,
with the rules that are disabled so far; where none is open one is started first, and if its start
fails so does the check. -/
inductive Follows (calls : List Call) (language text : String) (seen : List Happening) :
    Except Fault (List Suggestion) → List Happening → Prop where
  | reused (rules : List String) (answer : EngineAnswer) (hrules : ListsRules calls language rules)
      (hopen : language ∈ openEngines seen) :
      Follows calls language text seen
        ((Bundled.readAnswer answer).map (unallowed calls language text))
        (seen ++ [⟨language, .checked rules text⟩])
  | started (rules : List String) (answer : EngineAnswer) (hrules : ListsRules calls language rules)
      (hclosed : language ∉ openEngines seen) :
      Follows calls language text seen
        ((Bundled.readAnswer answer).map (unallowed calls language text))
        (seen ++ [⟨language, .started⟩] ++ [⟨language, .checked rules text⟩])
  | refused (reason : String) (hclosed : language ∉ openEngines seen) :
      Follows calls language text seen (.error (.backend (.engineNotStarted language reason)))
        (seen ++ [⟨language, .failedStart⟩])

theorem readAnswer_ne_notStarted (answer : EngineAnswer) (language reason : String) :
    Bundled.readAnswer answer ≠ .error (.backend (.engineNotStarted language reason)) := by
  cases answer with
  | failure text => exact fun h => nomatch h
  | findings found =>
    intro h
    obtain ⟨_, finding, _, _, _, hfinding⟩ := mapM_eq_error_iff.1 h
    rw [Bundled.suggestionOf] at hfinding
    cases hmade : Suggestion.ofInts finding.offset (finding.offset + finding.length)
        finding.remark with
    | ok suggestion => rw [hmade] at hfinding; cases hfinding
    | error error => rw [hmade] at hfinding; cases hfinding

/-- Behind a check the engine of its language is open, unless it could not be started. -/
theorem Follows.mem_openEngines_iff {calls : List Call} {language text : String}
    {seen later : List Happening} {result : Except Fault (List Suggestion)}
    (h : Follows calls language text seen result later) :
    language ∈ openEngines later ↔
      ¬ ∃ reason, result = .error (.backend (.engineNotStarted language reason)) := by
  have hanswered : ∀ answer, ¬ ∃ reason,
      (Bundled.readAnswer answer).map (unallowed calls language text) =
        .error (.backend (.engineNotStarted language reason)) := by
    rintro answer ⟨reason, hfault⟩
    exact readAnswer_ne_notStarted answer language reason (map_eq_error_iff.1 hfault)
  cases h with
  | reused rules answer hrules hopen =>
    refine iff_of_true ?_ (hanswered answer)
    rw [openEngines_concat]
    exact hopen
  | started rules answer hrules hclosed =>
    refine iff_of_true ?_ (hanswered answer)
    rw [openEngines_concat, openEngines_concat]
    exact List.mem_append_right _ (List.mem_singleton_self language)
  | refused reason hclosed =>
    refine iff_of_false ?_ fun hno => hno ⟨reason, rfl⟩
    rw [openEngines_concat]
    exact hclosed

section

variable {starts : List (Option String)} {calls : List Call} {b later : Bundled}

theorem Stands.happenings_append (h : Stands starts calls b) (more : List EngineEvent) :
    happenings starts (b.events ++ more) =
      happenings starts b.events ++ happenings b.starts more := by
  rw [EngineRuns.happenings_append, h.starts_eq]

/-- Behind one event more, which tells of a start just where no engine was open. -/
theorem Stands.concat {others : List Call} {event : EngineEvent} {happening : Happening}
    (h : Stands starts calls b) (hevents : later.events = b.events ++ [event])
    (hhappening : happenings b.starts [event] = [happening])
    (hstart : happening.deed.isStart = true ↔ happening.language ∉ b.running)
    (hstarts : later.starts = b.starts.drop ([event].countP isStart))
    (hrunning : later.running = openAfter b.running happening)
    (hsettings : later.settings = settingsAfter others) : Stands starts others later := by
  have hhistory : happenings starts later.events = happenings starts b.events ++ [happening] := by
    rw [hevents, h.happenings_append, hhappening]
  refine ⟨hsettings, ?_, ?_, ?_⟩
  · rw [hstarts, hevents, h.starts_eq, List.drop_drop, List.countP_append]
  · rw [hhistory, openEngines_concat, h.running_eq, hrunning]
  · rw [hhistory]
    exact h.orderly.concat (by rwa [h.running_eq])

theorem Stands.tell {others : List Call} (h : Stands starts calls b) {settings : Settings}
    (hsettings : settings = settingsAfter others) : Stands starts others { b with settings } :=
  ⟨hsettings, h.starts_eq, h.running_eq, h.orderly⟩

theorem listsRules_toList (h : Stands starts calls b) (language : String) :
    ListsRules calls language (b.settings.disabled language).toList := by
  rw [h.settings_eq]
  exact ⟨WordSet.ascending _, fun _ => mem_disabled_settingsAfter⟩

/-- A running engine checks a text, and stays open whatever comes of it. -/
theorem Stands.askEngine (h : Stands starts calls b) {language : String}
    (hopen : language ∈ b.running) (text : String) :
    (∃ rules answer, ListsRules calls language rules ∧
      (b.askEngine language text).1 =
        (Bundled.readAnswer answer).map (unallowed calls language text) ∧
      happenings starts (b.askEngine language text).2.events =
        happenings starts b.events ++ [⟨language, .checked rules text⟩]) ∧
    Stands starts (calls ++ [.check language text]) (b.askEngine language text).2 := by
  have hfilter : b.settings.filter language text = unallowed calls language text := by
    rw [h.settings_eq]
    exact funext fun found => filter_settingsAfter calls language text found
  refine ⟨⟨_, b.answers.headD (.findings []), listsRules_toList h language, ?_, ?_⟩, ?_⟩
  · exact congrArg (Except.map · _) hfilter
  · exact h.happenings_append _
  · refine h.concat rfl rfl ⟨(fun hstart => nomatch hstart), fun hclosed => ?_⟩ rfl rfl ?_
    · exact absurd hopen hclosed
    · rw [settingsAfter_concat]
      exact h.settings_eq

theorem Stands.check (h : Stands starts calls b) (language text : String) :
    Follows calls language text (happenings starts b.events) (b.check language text).value.1
      (happenings starts (b.check language text).value.2.events) ∧
    Stands starts (calls ++ [.check language text]) (b.check language text).value.2 := by
  by_cases hopen : language ∈ b.running
  · obtain ⟨⟨rules, answer, hrules, hresult, hhistory⟩, hlater⟩ := h.askEngine hopen text
    rw [value_check_of_mem hopen, hresult, hhistory]
    exact ⟨.reused rules answer hrules (h.running_eq ▸ hopen), hlater⟩
  · have hclosed : language ∉ openEngines (happenings starts b.events) := by rwa [h.running_eq]
    cases hstart : b.starts.headD none with
    | some reason =>
      have hhappening : happenings b.starts [.start language] = [⟨language, .failedStart⟩] := by
        rw [happenings, hstart]
        rfl
      rw [value_check_of_refused hopen hstart]
      dsimp only
      rw [h.happenings_append, hhappening]
      refine ⟨.refused reason hclosed, ?_⟩
      refine h.concat rfl hhappening ⟨fun _ => hopen, fun _ => rfl⟩ List.drop_one.symm rfl ?_
      rw [settingsAfter_concat]
      exact h.settings_eq
    | none =>
      have hhappening : happenings b.starts [.start language] = [⟨language, .started⟩] := by
        rw [happenings, hstart]
        rfl
      have hstarted : Stands starts calls { b with
          starts := b.starts.tail
          events := b.events ++ [.start language]
          running := b.running ++ [language] } :=
        h.concat rfl hhappening ⟨fun _ => hopen, fun _ => rfl⟩ List.drop_one.symm rfl h.settings_eq
      obtain ⟨⟨rules, answer, hrules, hresult, hhistory⟩, hlater⟩ :=
        hstarted.askEngine (List.mem_append_right _ (List.mem_singleton_self language)) text
      rw [value_check_of_started hopen hstart, hresult, hhistory]
      dsimp only
      rw [h.happenings_append, hhappening]
      exact ⟨.started rules answer hrules hclosed, hlater⟩

theorem happenings_map_close (starts : List (Option String)) (engines : List String) :
    happenings starts (engines.map .close) =
      engines.map fun language => ⟨language, .closed⟩ := by
  induction engines with
  | nil => rfl
  | cons language rest ih => rw [List.map_cons, happenings, ih, List.map_cons]

theorem Stands.close (h : Stands starts calls b) :
    happenings starts b.close.events = happenings starts b.events ++
      (openEngines (happenings starts b.events)).map (fun language => ⟨language, .closed⟩) ∧
    Stands starts (calls ++ [.close]) b.close := by
  have hhistory : happenings starts b.close.events = happenings starts b.events ++
      b.running.map fun language => ⟨language, .closed⟩ := by
    rw [Bundled.close, h.happenings_append, happenings_map_close]
  have hnone : (b.running.map EngineEvent.close).countP isStart = 0 := by
    rw [List.countP_map]
    exact List.countP_eq_zero.2 fun _ _ hstart => nomatch hstart
  refine ⟨by rw [hhistory, h.running_eq], ?_, ?_, ?_, ?_⟩
  · rw [settingsAfter_concat]
    exact h.settings_eq
  · show b.starts = starts.drop ((b.events ++ b.running.map EngineEvent.close).countP isStart)
    rw [List.countP_append, hnone]
    exact h.starts_eq
  · rw [hhistory, openEngines_append, h.running_eq]
    exact foldl_openAfter_closed b.running
  · rw [hhistory]
    exact h.orderly.append_closed h.running_eq

end

def after (b : Bundled) (calls : List Call) : Bundled :=
  calls.foldl (fun b call => (perform b call).2) b

theorem after_concat (b : Bundled) (calls : List Call) (call : Call) :
    after b (calls ++ [call]) = (perform (after b calls) call).2 := by
  rw [after, List.foldl_append]
  rfl

theorem stands_after (starts : List (Option String)) (answers : List EngineAnswer)
    (calls : List Call) : Stands starts calls (after (.new starts answers) calls) := by
  induction calls using List.reverseRecOn with
  | nil => exact ⟨rfl, rfl, rfl, orderly_nil⟩
  | append_singleton calls call ih =>
    rw [after_concat]
    cases call with
    | allowWords language words =>
      exact ih.tell (by rw [settingsAfter_concat, ih.settings_eq]; rfl)
    | disableChecks language rules =>
      exact ih.tell (by rw [settingsAfter_concat, ih.settings_eq]; rfl)
    | check language text => exact (ih.check language text).2
    | close => exact ih.close.2

def history (starts : List (Option String)) (answers : List EngineAnswer) (calls : List Call) :
    List Happening :=
  happenings starts (after (.new starts answers) calls).events

/-- At every moment of a run a language has at most one open engine; only an open one checks or is
closed, and starts are tried only where none is.  The deeds of each language are services: failed
starts, a successful one, checks and a close; and the last of them may go on.  A check names just the
rules that were disabled so far, also behind a close, and uses the open engine of its language, which
stays open whatever comes of it; without one it tries a start, and after a failed start none is open.
A close closes the open engines once each, in the order of their starts.  Nothing else happens to
engines. -/
theorem history_after_run (starts : List (Option String)) (answers : List EngineAnswer)
    (calls : List Call) :
    Orderly (history starts answers calls) ∧
    (∀ language, Cycles (language ∈ openEngines (history starts answers calls))
      (deedsOf language (history starts answers calls))) ∧
    (∀ language text, ∃ result,
      (perform (after (.new starts answers) calls) (.check language text)).1 = some result ∧
      Follows calls language text (history starts answers calls) result
        (history starts answers (calls ++ [.check language text])) ∧
      (language ∈ openEngines (history starts answers (calls ++ [.check language text])) ↔
        ¬ ∃ reason, result = .error (.backend (.engineNotStarted language reason)))) ∧
    (history starts answers (calls ++ [.close]) = history starts answers calls ++
        (openEngines (history starts answers calls)).map (fun language => ⟨language, .closed⟩) ∧
      openEngines (history starts answers (calls ++ [.close])) = []) ∧
    (∀ language words,
      history starts answers (calls ++ [.allowWords language words]) =
        history starts answers calls ∧
      history starts answers (calls ++ [.disableChecks language words]) =
        history starts answers calls) := by
  have hstands := stands_after starts answers calls
  unfold history
  simp only [after_concat]
  refine ⟨hstands.orderly, hstands.orderly.cycles, ?_, ?_, fun _ _ => ⟨rfl, rfl⟩⟩
  · intro language text
    have hfollows := (hstands.check language text).1
    exact ⟨_, rfl, hfollows, hfollows.mem_openEngines_iff⟩
  · obtain ⟨hhistory, hclosed⟩ := hstands.close
    exact ⟨hhistory, hclosed.running_eq⟩

end ProseTrace.Proofs.Checker.EngineRuns
