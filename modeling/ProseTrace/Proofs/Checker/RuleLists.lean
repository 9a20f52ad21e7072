import ProseTrace.Proofs.Checker.AlikeRuns
import ProseTrace.Proofs.Text.Separators

/-!
# What a request says of the disabled rules

A request lists the rules that are disabled in its language, joined by commas, and a server takes
them apart at the commas.  As long as no rule holds a comma, the list says exactly which rules are
disabled, and these are the rules that an engine of the bundled checker is handed.  A rule with a
comma is taken for several.
-/

namespace ProseTrace.Proofs.Checker.RuleLists

open ProseTrace.Text ProseTrace.Checker ProseTrace.Proofs.Text.Separators
open ProseTrace.Proofs.Checker.SettingRuns ProseTrace.Proofs.Checker.EngineRuns
open ProseTrace.Proofs.Checker.AlikeRuns

/-! ## Requests that list rules -/

def rulesAsked (request : Request) : List String :=
  match request.form.lookup "disabledRules" with
  | some field => pieces ',' field
  | none => []

/-- The request of a check, with these rules disabled. -/
def checkOf (language text : String) (rules : List String) : Request :=
  ⟨"POST", "/v2/check", [("text", text), ("language", language)] ++
    if rules.isEmpty then [] else [("disabledRules", ",".intercalate rules)]⟩

section

variable {language text : String} {rules more : List String}

theorem checkOf_nil : checkOf language text [] =
    ⟨"POST", "/v2/check", [("text", text), ("language", language)]⟩ := rfl

theorem checkOf_of_ne_nil (h : rules ≠ []) : checkOf language text rules =
    ⟨"POST", "/v2/check", [("text", text), ("language", language),
      ("disabledRules", ",".intercalate rules)]⟩ := by
  rw [checkOf, if_neg (mt List.isEmpty_iff.1 h)]
  rfl

theorem rulesAsked_checkOf :
    rulesAsked (checkOf language text rules) = rules.flatMap (pieces ',') := by
  by_cases h : rules = []
  · rw [h, checkOf_nil]
    rfl
  · rw [checkOf_of_ne_nil h, ← pieces_intercalate h]
    rfl

theorem length_form_checkOf_eq_two_iff :
    (checkOf language text rules).form.length = 2 ↔ rules = [] := by
  by_cases h : rules = []
  · rw [h, checkOf_nil]
    exact iff_of_true rfl rfl
  · rw [checkOf_of_ne_nil h]
    exact iff_of_false (show 3 ≠ 2 by decide) h

/-- Requests are told apart by their rules only where the pieces of these differ. -/
theorem checkOf_eq_iff :
    checkOf language text rules = checkOf language text more ↔
      (rules = [] ↔ more = []) ∧ rules.flatMap (pieces ',') = more.flatMap (pieces ',') := by
  constructor
  · intro h
    have hempty : rules = [] ↔ more = [] := by
      rw [← length_form_checkOf_eq_two_iff, h, length_form_checkOf_eq_two_iff]
    have hpieces := congrArg rulesAsked h
    rw [rulesAsked_checkOf, rulesAsked_checkOf] at hpieces
    exact ⟨hempty, hpieces⟩
  · rintro ⟨hempty, hpieces⟩
    by_cases hrules : rules = []
    · rw [hrules, hempty.1 hrules]
    · have hmore : more ≠ [] := fun hmore => hrules (hempty.2 hmore)
      rw [← pieces_intercalate hrules, ← pieces_intercalate hmore] at hpieces
      have hjoined : ",".intercalate rules = ",".intercalate more := pieces_injective hpieces
      rw [checkOf_of_ne_nil hrules, checkOf_of_ne_nil hmore, hjoined]

end

/-! ## Runs -/

structure IsFresh (s : Session) : Prop where
  settings_eq : s.remote.settings = .empty
  isUsable : s.remote.connection.isUsable = true

/-- What a client sends for a check behind these calls. -/
def sentFor (s : Session) (calls : List Call) (language text : String) : List Request :=
  (see Session.sent (later s calls) (.check language text)).added

/-- What a bundled checker does for a check behind these calls. -/
def doneFor (b : Bundled) (calls : List Call) (language text : String) : List EngineEvent :=
  (see Bundled.events (later b calls) (.check language text)).added

section

variable {s t : Session} {b : Bundled} {calls others : List Call} {language text : String}
  {rules more : List String}

theorem eq_of_listsRules (h : ListsRules calls language rules) :
    ((settingsAfter calls).disabled language).toList = rules := by
  have hset : (settingsAfter calls).disabled language = ⟨rules, h.ascending⟩ := by
    apply WordSet.ext_mem
    intro rule
    rw [mem_disabled_settingsAfter]
    exact (h.mem_iff rule).symm
  rw [hset]

theorem isUsable_later (h : s.remote.connection.isUsable = true) (hopen : .close ∉ calls) :
    (later s calls).remote.connection.isUsable = true := by
  induction calls generalizing s with
  | nil => exact h
  | cons call rest ih =>
    obtain ⟨hcall, hrest⟩ := not_or.1 (mt List.mem_cons.2 hopen)
    refine ih ?_ hrest
    cases call with
    | allowWords _ _ => exact h
    | disableChecks _ _ => exact h
    | check language text =>
      show (perform s (.check language text)).2.remote.connection.isUsable = true
      rw [perform_check_session]
      exact h
    | close => exact absurd rfl hcall

theorem sentFor_eq (hs : IsFresh s) (hopen : .close ∉ calls)
    (hrules : ListsRules calls language rules) :
    sentFor s calls language text = [checkOf language text rules] := by
  have hsee := congrArg Seen.added (clientView.see_check (later s calls) language text)
  have hsettings : (later s calls).remote.settings = settingsAfter calls := by
    have hlater := clientView.settings_later s calls
    rwa [show clientView.settings s = .empty from hs.settings_eq] at hlater
  have hasks : sentFor s calls language text = clientAsks (later s calls) language text
      ((later s calls).remote.settings.disabled language).toList := hsee
  rw [hasks, hsettings, eq_of_listsRules hrules, clientAsks,
    if_pos (isUsable_later hs.isUsable hopen)]
  rfl

theorem eq_of_mem_doneFor (hb : b.settings = .empty) (hrules : ListsRules calls language rules)
    {handed : List String} (h : .check language handed text ∈ doneFor b calls language text) :
    handed = rules := by
  have hsee := congrArg Seen.added (bundledView.see_check (later b calls) language text)
  have hsettings : (later b calls).settings = settingsAfter calls := by
    have hlater := bundledView.settings_later b calls
    rwa [show bundledView.settings b = .empty from hb] at hlater
  have hasks : doneFor b calls language text = engineAsks (later b calls) language text
      ((later b calls).settings.disabled language).toList := hsee
  rw [hasks, hsettings, eq_of_listsRules hrules, engineAsks] at h
  split at h
  · simpa using h
  · split at h
    · simp at h
    · simpa using h

theorem exists_listsRules (calls : List Call) (language : String) :
    ∃ rules, ListsRules calls language rules :=
  ⟨_, ((settingsAfter calls).disabled language).ascending, fun _ => mem_disabled_settingsAfter⟩

/-- Whatever the rules, requests are equal where the rules have the same pieces. -/
theorem sentFor_eq_iff (hs : IsFresh s) (ht : IsFresh t) (hcalls : .close ∉ calls)
    (hothers : .close ∉ others) (hrules : ListsRules calls language rules)
    (hmore : ListsRules others language more) (text : String) :
    sentFor s calls language text = sentFor t others language text ↔
      (rules = [] ↔ more = []) ∧ rules.flatMap (pieces ',') = more.flatMap (pieces ',') := by
  rw [sentFor_eq hs hcalls hrules, sentFor_eq ht hothers hmore, List.singleton_inj, checkOf_eq_iff]

theorem comma_free_of_listsRules (hrules : ListsRules calls language rules)
    (hfree : ∀ rule ∈ rulesDisabled language calls, ',' ∉ rule.toList) :
    ∀ rule ∈ rules, ',' ∉ rule.toList :=
  fun rule hrule => hfree rule ((hrules.mem_iff rule).1 hrule)

/-- Of two runs without a comma in the rules of a language, the checks in it send the same request
if and only if the same rules are disabled there; and a server is asked to disable just the rules
that a bundled checker, told the same, hands to its engine. -/
theorem sentFor_determines_rules (hs : IsFresh s) (ht : IsFresh t) (hb : b.settings = .empty)
    (hcalls : .close ∉ calls) (hothers : .close ∉ others)
    (hfree : ∀ rule ∈ rulesDisabled language calls, ',' ∉ rule.toList)
    (hfree_others : ∀ rule ∈ rulesDisabled language others, ',' ∉ rule.toList) (text : String) :
    (sentFor s calls language text = sentFor t others language text ↔
      ∀ rule, rule ∈ rulesDisabled language calls ↔ rule ∈ rulesDisabled language others) ∧
    ∃ request, sentFor s calls language text = [request] ∧
      ListsRules calls language (rulesAsked request) ∧
      ∀ handed, .check language handed text ∈ doneFor b calls language text →
        rulesAsked request = handed := by
  obtain ⟨rules, hrules⟩ := exists_listsRules calls language
  obtain ⟨more, hmore⟩ := exists_listsRules others language
  have hasked : rulesAsked (checkOf language text rules) = rules := by
    rw [rulesAsked_checkOf, flatMap_pieces (comma_free_of_listsRules hrules hfree)]
  refine ⟨?_, _, sentFor_eq hs hcalls hrules, by rwa [hasked], fun handed hhanded => ?_⟩
  · rw [sentFor_eq_iff hs ht hcalls hothers hrules hmore,
      flatMap_pieces (comma_free_of_listsRules hrules hfree),
      flatMap_pieces (comma_free_of_listsRules hmore hfree_others)]
    constructor
    · rintro ⟨_, rfl⟩ rule
      rw [← hrules.mem_iff, ← hmore.mem_iff]
    · intro hsame
      have hset : (settingsAfter calls).disabled language =
          (settingsAfter others).disabled language := by
        apply WordSet.ext_mem
        intro rule
        rw [mem_disabled_settingsAfter, mem_disabled_settingsAfter, hsame]
      have hlist : rules = more := by
        rw [← eq_of_listsRules hrules, hset, eq_of_listsRules hmore]
      exact ⟨by rw [hlist], hlist⟩
  · rw [hasked, eq_of_mem_doneFor hb hrules hhanded]

end

/-! ## Runs with few rules -/

/-- A client and a bundled checker that nothing was asked of yet. -/
def freshClient : Session := .start ⟨"http://lt.test:8081", .empty, .owned true, 1000⟩ []

def freshBundled : Bundled := .new [] []

/-- Rules that are disabled at once or one after the other. -/
theorem sentFor_determines_two_rules :
    (sentFor freshClient [.disableChecks "en" ["B", "A"]] "en" "t" =
        sentFor freshClient [.disableChecks "en" ["A"], .disableChecks "en" ["B", "A"]] "en" "t" ↔
      ∀ rule, rule ∈ rulesDisabled "en" [.disableChecks "en" ["B", "A"]] ↔
        rule ∈ rulesDisabled "en" [.disableChecks "en" ["A"], .disableChecks "en" ["B", "A"]]) ∧
    doneFor freshBundled [.disableChecks "en" ["B", "A"]] "en" "t" =
      [.start "en", .check "en" ["A", "B"] "t"] ∧
    ∃ request, sentFor freshClient [.disableChecks "en" ["B", "A"]] "en" "t" = [request] ∧
      rulesAsked request = ["A", "B"] := by
  have hdone : doneFor freshBundled [.disableChecks "en" ["B", "A"]] "en" "t" =
      [.start "en", .check "en" ["A", "B"] "t"] := by decide +kernel
  obtain ⟨hsame, request, hrequest, _, hhanded⟩ :=
    @sentFor_determines_rules freshClient freshClient freshBundled
      [.disableChecks "en" ["B", "A"]] [.disableChecks "en" ["A"], .disableChecks "en" ["B", "A"]]
      "en" ⟨rfl, rfl⟩ ⟨rfl, rfl⟩ rfl (by decide) (by decide) (by decide +kernel)
      (by decide +kernel) "t"
  exact ⟨hsame, hdone, request, hrequest, hhanded _ (by rw [hdone]; decide)⟩

/-- One rule with a comma in it is asked for as two, which no engine is handed. -/
theorem sentFor_confuses_commas :
    sentFor freshClient [.disableChecks "en" ["A,B"]] "en" "t" =
      sentFor freshClient [.disableChecks "en" ["A", "B"]] "en" "t" ∧
    ¬ (∀ rule, rule ∈ rulesDisabled "en" [.disableChecks "en" ["A,B"]] ↔
      rule ∈ rulesDisabled "en" [.disableChecks "en" ["A", "B"]]) ∧
    (sentFor freshClient [.disableChecks "en" ["A,B"]] "en" "t").map rulesAsked = [["A", "B"]] ∧
    doneFor freshBundled [.disableChecks "en" ["A,B"]] "en" "t" =
      [.start "en", .check "en" ["A,B"] "t"] := by
  refine ⟨by decide +kernel, fun hsame => ?_, by decide +kernel, by decide +kernel⟩
  have hrule := (hsame "A,B").1 (by decide +kernel)
  revert hrule
  decide +kernel

end ProseTrace.Proofs.Checker.RuleLists
