import ProseTrace.Checker.Recorder

/-!
# Settings after a run

What a client has been told about a language: the words that its calls allowed and the rules that
they disabled.  The order of the calls, their repetition and all other calls leave no trace in the
settings, and the settings decide what a check asks for and which suggestions it leaves out.
-/

namespace ProseTrace.Proofs.Checker.SettingRuns

open ProseTrace.Text ProseTrace.Finding ProseTrace.Checker

/-! ## What calls say about a language -/

/-- The language and the words of a call that allows words. -/
def allowance? : Call → Option (String × List String)
  | .allowWords language words => some (language, words)
  | _ => none

/-- The language and the rules of a call that disables rules. -/
def ban? : Call → Option (String × List String)
  | .disableChecks language rules => some (language, rules)
  | _ => none

/-- The words of a notice, if it is about the language. -/
def about (language : String) : Option (String × List String) → List String
  | some (other, words) => if other = language then words else []
  | none => []

def wordsAllowed (language : String) (calls : List Call) : List String :=
  calls.flatMap fun call => about language (allowance? call)

def rulesDisabled (language : String) (calls : List Call) : List String :=
  calls.flatMap fun call => about language (ban? call)

/-- Two runs of calls say the same about a language. -/
structure AgreeOn (language : String) (calls others : List Call) : Prop where
  words (word : String) : word ∈ wordsAllowed language calls ↔ word ∈ wordsAllowed language others
  rules (rule : String) : rule ∈ rulesDisabled language calls ↔ rule ∈ rulesDisabled language others

theorem AgreeOn.symm {language : String} {calls others : List Call}
    (h : AgreeOn language calls others) : AgreeOn language others calls :=
  ⟨fun word => (h.words word).symm, fun rule => (h.rules rule).symm⟩

theorem mem_about {language word : String} {notice : Option (String × List String)} :
    word ∈ about language notice ↔ ∃ words, notice = some (language, words) ∧ word ∈ words := by
  constructor
  · intro h
    unfold about at h
    split at h
    next other words =>
      split at h
      next hother => exact ⟨words, hother ▸ rfl, h⟩
      next => cases h
    next => cases h
  · rintro ⟨words, rfl, hword⟩
    rwa [about, if_pos rfl]

theorem mem_wordsAllowed {language word : String} {calls : List Call} :
    word ∈ wordsAllowed language calls ↔
      ∃ words, .allowWords language words ∈ calls ∧ word ∈ words := by
  simp only [wordsAllowed, List.mem_flatMap, mem_about]
  constructor
  · rintro ⟨call, hcall, words, hwords, hword⟩
    cases call <;> cases hwords
    exact ⟨words, hcall, hword⟩
  · rintro ⟨words, hcall, hword⟩
    exact ⟨_, hcall, words, rfl, hword⟩

theorem mem_rulesDisabled {language rule : String} {calls : List Call} :
    rule ∈ rulesDisabled language calls ↔
      ∃ rules, .disableChecks language rules ∈ calls ∧ rule ∈ rules := by
  simp only [rulesDisabled, List.mem_flatMap, mem_about]
  constructor
  · rintro ⟨call, hcall, rules, hrules, hrule⟩
    cases call <;> cases hrules
    exact ⟨rules, hcall, hrule⟩
  · rintro ⟨rules, hcall, hrule⟩
    exact ⟨_, hcall, rules, rfl, hrule⟩

/-- The order of calls and their repetition do not matter. -/
theorem agreeOn_of_mem_iff {calls others : List Call}
    (h : ∀ call, call ∈ calls ↔ call ∈ others) (language : String) :
    AgreeOn language calls others :=
  ⟨fun _ => by simp only [mem_wordsAllowed, h], fun _ => by simp only [mem_rulesDisabled, h]⟩

/-! ## Settings -/

def afterCall (settings : Settings) : Call → Settings
  | .allowWords language words => settings.allow language words
  | .disableChecks language rules => settings.disable language rules
  | .check _ _ => settings
  | .close => settings

def settingsAfter (calls : List Call) : Settings := calls.foldl afterCall .empty

theorem settingsAfter_concat (calls : List Call) (call : Call) :
    settingsAfter (calls ++ [call]) = afterCall (settingsAfter calls) call := by
  rw [settingsAfter, List.foldl_append]
  rfl

/-- The sets of all languages, with the words of a notice. -/
def extendBy (sets : String → WordSet) : Option (String × List String) → String → WordSet
  | some (language, words) => Settings.extend sets language words
  | none => sets

theorem mem_extendBy {sets : String → WordSet} {notice : Option (String × List String)}
    {language word : String} :
    word ∈ extendBy sets notice language ↔ word ∈ sets language ∨ word ∈ about language notice := by
  cases notice with
  | none => exact (or_iff_left List.not_mem_nil).symm
  | some told =>
    obtain ⟨other, words⟩ := told
    rw [extendBy, Settings.mem_extend, about]
    split
    next h => simp only [h, true_and, or_comm]
    next h => simp only [Ne.symm h, false_and, false_or, List.not_mem_nil, or_false]

theorem mem_foldl_extendBy (part : Call → Option (String × List String)) {sets : String → WordSet}
    {calls : List Call} {language word : String} :
    word ∈ calls.foldl (fun sets call => extendBy sets (part call)) sets language ↔
      word ∈ sets language ∨ word ∈ calls.flatMap fun call => about language (part call) := by
  induction calls generalizing sets with
  | nil => exact (or_iff_left List.not_mem_nil).symm
  | cons call rest ih =>
    rw [List.foldl_cons, ih, mem_extendBy, List.flatMap_cons, List.mem_append, or_assoc]

theorem allowed_foldl (calls : List Call) (settings : Settings) :
    (calls.foldl afterCall settings).allowed =
      calls.foldl (fun sets call => extendBy sets (allowance? call)) settings.allowed := by
  induction calls generalizing settings with
  | nil => rfl
  | cons call rest ih =>
    rw [List.foldl_cons, List.foldl_cons, ih]
    cases call <;> rfl

theorem disabled_foldl (calls : List Call) (settings : Settings) :
    (calls.foldl afterCall settings).disabled =
      calls.foldl (fun sets call => extendBy sets (ban? call)) settings.disabled := by
  induction calls generalizing settings with
  | nil => rfl
  | cons call rest ih =>
    rw [List.foldl_cons, List.foldl_cons, ih]
    cases call <;> rfl

/-- The words of a client behind some calls, whatever it had been told before. -/
theorem mem_allowed_foldl {calls : List Call} {settings : Settings} {language word : String} :
    word ∈ (calls.foldl afterCall settings).allowed language ↔
      word ∈ settings.allowed language ∨ word ∈ wordsAllowed language calls := by
  rw [allowed_foldl, mem_foldl_extendBy]
  rfl

theorem mem_disabled_foldl {calls : List Call} {settings : Settings} {language rule : String} :
    rule ∈ (calls.foldl afterCall settings).disabled language ↔
      rule ∈ settings.disabled language ∨ rule ∈ rulesDisabled language calls := by
  rw [disabled_foldl, mem_foldl_extendBy]
  rfl

theorem mem_allowed_settingsAfter {calls : List Call} {language word : String} :
    word ∈ (settingsAfter calls).allowed language ↔ word ∈ wordsAllowed language calls := by
  rw [settingsAfter, mem_allowed_foldl]
  exact or_iff_right (WordSet.not_mem_empty word)

theorem mem_disabled_settingsAfter {calls : List Call} {language rule : String} :
    rule ∈ (settingsAfter calls).disabled language ↔ rule ∈ rulesDisabled language calls := by
  rw [settingsAfter, mem_disabled_foldl]
  exact or_iff_right (WordSet.not_mem_empty rule)

structure SameFor (language : String) (settings others : Settings) : Prop where
  allowed_eq : settings.allowed language = others.allowed language
  disabled_eq : settings.disabled language = others.disabled language

theorem SameFor.filter_eq {language : String} {settings others : Settings}
    (h : SameFor language settings others) (text : String) :
    settings.filter language text = others.filter language text := by
  funext found
  simp only [Settings.filter, Settings.isAllowed, h.allowed_eq]

theorem AgreeOn.sameFor_foldl {language : String} {calls others : List Call}
    (h : AgreeOn language calls others) (settings : Settings) :
    SameFor language (calls.foldl afterCall settings) (others.foldl afterCall settings) where
  allowed_eq := by
    apply WordSet.ext_mem
    intro word
    rw [mem_allowed_foldl, mem_allowed_foldl, h.words]
  disabled_eq := by
    apply WordSet.ext_mem
    intro rule
    rw [mem_disabled_foldl, mem_disabled_foldl, h.rules]

theorem AgreeOn.sameFor {language : String} {calls others : List Call}
    (h : AgreeOn language calls others) :
    SameFor language (settingsAfter calls) (settingsAfter others) :=
  h.sameFor_foldl .empty

theorem settingsAfter_eq {calls others : List Call}
    (h : ∀ language, AgreeOn language calls others) :
    settingsAfter calls = settingsAfter others :=
  Settings.ext (funext fun language => (h language).sameFor.allowed_eq)
    (funext fun language => (h language).sameFor.disabled_eq)

/-! ## Calls -/

/-- What comes of a call: the checker behind it and, for a check, its result. -/
def perform {σ : Type} [Backend σ] (checker : σ) :
    Call → Option (Except Fault (List Suggestion)) × σ
  | .allowWords language words => (none, Backend.allowWords checker language words)
  | .disableChecks language rules => (none, Backend.disableChecks checker language rules)
  | .check language text =>
    let reply := (Backend.check checker language text).value
    (some reply.1, reply.2)
  | .close => (none, (Backend.close checker).value)

/-! ## Requests and answers -/

/-- The request for a check behind these calls: the text, the language and, if any rule was disabled
in that language, the rules in ascending order and each of them once. -/
structure Requests (calls : List Call) (language text : String) (request : Request) : Prop where
  method_eq : request.method = "POST"
  path_eq : request.path = "/v2/check"
  form_eq : ∃ rules : List String, rules.Pairwise (· < ·) ∧
    (∀ rule, rule ∈ rules ↔ rule ∈ rulesDisabled language calls) ∧
    request.form = [("text", text), ("language", language)] ++
      if rulesDisabled language calls = [] then []
      else [("disabledRules", ",".intercalate rules)]

theorem requests_checkRequest {remote : Remote} {calls : List Call}
    (h : remote.settings = settingsAfter calls) (language text : String) :
    Requests calls language text (remote.checkRequest language text) := by
  have hmem : ∀ rule, rule ∈ ((settingsAfter calls).disabled language).toList ↔
      rule ∈ rulesDisabled language calls := fun _ => mem_disabled_settingsAfter
  have hnil : ((settingsAfter calls).disabled language).toList.isEmpty = true ↔
      rulesDisabled language calls = [] := by
    simp only [List.isEmpty_iff, List.eq_nil_iff_forall_not_mem, hmem]
  refine ⟨rfl, rfl, _, ((settingsAfter calls).disabled language).ascending, hmem, ?_⟩
  rw [Remote.checkRequest, h]
  simp only [hnil]

/-- The suggestions that do not mark a word allowed by these calls. -/
def unallowed (calls : List Call) (language text : String) (found : List Suggestion) :
    List Suggestion :=
  found.filter fun s => String.ofList (s.marked text.toList) ∉ wordsAllowed language calls

theorem filter_settingsAfter (calls : List Call) (language text : String)
    (found : List Suggestion) :
    (settingsAfter calls).filter language text found = unallowed calls language text found := by
  apply List.filter_congr
  intro s _
  rw [Settings.isAllowed, ← decide_not]
  exact decide_eq_decide.2 (not_congr mem_allowed_settingsAfter)

theorem value_conclude (remote : Remote) (language text : String) (reply : Reply) :
    (remote.conclude language text reply).value =
      (remote.readReply text reply).map (remote.settings.filter language text) := by
  unfold Remote.conclude
  cases remote.readReply text reply <;> rfl

section

variable {s : Session} {language text : String}

theorem value_check_of_isUsable (h : s.remote.connection.isUsable = true) :
    (s.check language text).value =
      ((s.remote.readReply text (s.replies.headD Session.noReply)).map
        (s.remote.settings.filter language text),
        ⟨s.remote, s.replies.tail, s.sent ++ [s.remote.checkRequest language text]⟩) := by
  rw [Session.check, Session.exchange, if_pos h]
  simp only [Logged.value_bind, Logged.value_pure, value_conclude]

theorem value_check_of_not_isUsable (h : ¬ s.remote.connection.isUsable = true) :
    (s.check language text).value = (.error .clientClosed, s) := by
  rw [Session.check, Session.exchange, if_neg h]
  rfl

end

/-- A reply of success, with a payload whose matches are read as these suggestions. -/
def IsRead (maxDepth : Nat) (text : String) (reply : Reply) (found : List Suggestion) : Prop :=
  ∃ status body payload, reply = .response status body ∧ isSuccess status = true ∧
    Json.ofBytes maxDepth body = .ok payload ∧ readMatches text payload = .ok found

theorem readReply_of_isRead {remote : Remote} {text : String} {reply : Reply}
    {found : List Suggestion} (h : IsRead remote.maxDepth text reply found) :
    remote.readReply text reply = .ok found := by
  obtain ⟨status, body, payload, rfl, hsuccess, hbody, hpayload⟩ := h
  simp only [Remote.readReply, hsuccess, if_true, hbody, hpayload]
  rfl

end ProseTrace.Proofs.Checker.SettingRuns
