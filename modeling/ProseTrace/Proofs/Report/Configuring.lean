import Mathlib.Logic.Function.Iterate
import ProseTrace.Proofs.Checker.AlikeRuns
import ProseTrace.Report

/-!
# Configured checkers

To configure a checker is to give it notices: the words and the rules of each language.  Settings are
sets that only grow.  So it makes no difference to a later run how often and in which order options
were given; the checks of a language leave out its words and disable its rules from then on, and the
checks of a language that the options do not name are what they would have been without.
-/

namespace ProseTrace.Proofs.Report.Configuring

open ProseTrace.Text ProseTrace.Finding ProseTrace.Checker ProseTrace.Config
open ProseTrace.Proofs.Checker.SettingRuns ProseTrace.Proofs.Checker.AlikeRuns

/-! ## Options as calls -/

/-- The calls that give a checker the words and the rules of options. -/
def notices (options : CheckOptions) : List Call :=
  (options.dictionary.map fun (language, words) => .allowWords language words) ++
    options.disabledChecks.map fun (language, rules) => .disableChecks language rules

section

variable {options : CheckOptions} {language : String} {words rules : List String}

theorem isNotice_of_mem_notices {call : Call} (h : call ∈ notices options) :
    isNotice call = true := by
  rcases List.mem_append.1 h with hword | hrule
  · obtain ⟨_, _, rfl⟩ := List.mem_map.1 hword
    rfl
  · obtain ⟨_, _, rfl⟩ := List.mem_map.1 hrule
    rfl

theorem allowWords_mem_notices :
    .allowWords language words ∈ notices options ↔ (language, words) ∈ options.dictionary := by
  simp [notices]

theorem disableChecks_mem_notices :
    .disableChecks language rules ∈ notices options ↔
      (language, rules) ∈ options.disabledChecks := by
  simp [notices]

end

section

variable {σ ε : Type} [Backend σ]

theorem configure_eq_later (options : CheckOptions) (checker : σ) :
    Report.configure options checker = later checker (notices options) := by
  rw [later, notices, List.foldl_append, List.foldl_map, List.foldl_map]
  rfl

theorem iterate_configure (options : CheckOptions) (n : Nat) (checker : σ) :
    (Report.configure options)^[n] checker =
      later checker (List.replicate n (notices options)).flatten := by
  induction n generalizing checker with
  | zero => rfl
  | succ n ih =>
    rw [Function.iterate_succ_apply, ih, configure_eq_later, List.replicate_succ,
      List.flatten_cons, later_append]

/-! ## Effects -/

/-- What two options do to a checker whose record is looked at.  However often the first options are
given, nothing that comes later shows it; nor is it seen which of the two were given first.  Behind
the first options each check of a language disables at least the rules that they list for it, and
returns no suggestion that marks a word that they list for it; and if they list neither words nor
rules for the language, a check of it is seen as it would have been without them. -/
structure TakesEffect (record : σ → List ε) (asks : σ → String → String → List String → List ε)
    (options others : CheckOptions) (checker : σ) : Prop where
  repeated (n : Nat) (calls : List Call) :
    seeAll record ((Report.configure options)^[n + 1] checker) calls =
      seeAll record (Report.configure options checker) calls
  swapped (calls : List Call) :
    seeAll record (Report.configure others (Report.configure options checker)) calls =
      seeAll record (Report.configure options (Report.configure others checker)) calls
  disabled (calls : List Call) (language text : String) :
    ∃ rules,
      (see record (later (Report.configure options checker) calls)
        (.check language text)).added =
          asks (later (Report.configure options checker) calls) language text rules ∧
      ∀ listed, (language, listed) ∈ options.disabledChecks → listed ⊆ rules
  allowed (calls : List Call) (language text : String) (found : List Suggestion)
    (hfound : (see record (later (Report.configure options checker) calls)
      (.check language text)).result = some (.ok found)) :
    ∀ words, (language, words) ∈ options.dictionary →
      ∀ s ∈ found, String.ofList (s.marked text.toList) ∉ words
  absent (calls : List Call) (language text : String)
    (hwords : language ∉ options.dictionary.map Prod.fst)
    (hrules : language ∉ options.disabledChecks.map Prod.fst) :
    see record (later (Report.configure options checker) calls) (.check language text) =
      see record (later checker calls) (.check language text)

variable {options : CheckOptions} {language : String}

theorem agreeOn_notices_nil (hwords : language ∉ options.dictionary.map Prod.fst)
    (hrules : language ∉ options.disabledChecks.map Prod.fst) :
    AgreeOn language (notices options) [] where
  words word := by
    refine iff_of_false (fun hmem => ?_) List.not_mem_nil
    obtain ⟨words, hlisted, _⟩ := mem_wordsAllowed.1 hmem
    exact hwords (List.mem_map_of_mem (allowWords_mem_notices.1 hlisted))
  rules rule := by
    refine iff_of_false (fun hmem => ?_) List.not_mem_nil
    obtain ⟨rules, hlisted, _⟩ := mem_rulesDisabled.1 hmem
    exact hrules (List.mem_map_of_mem (disableChecks_mem_notices.1 hlisted))

theorem settings_configured (v : View σ ε) (checker : σ) (calls : List Call) :
    v.settings (later (Report.configure options checker) calls) =
      (notices options ++ calls).foldl afterCall (v.settings checker) := by
  rw [configure_eq_later, ← later_append, v.settings_later]

theorem mem_allowed_configured (v : View σ ε) (checker : σ) (calls : List Call)
    {words : List String} (hlisted : (language, words) ∈ options.dictionary) {word : String}
    (hword : word ∈ words) :
    word ∈ (v.settings (later (Report.configure options checker) calls)).allowed language := by
  rw [settings_configured, mem_allowed_foldl, mem_wordsAllowed]
  exact .inr ⟨words, List.mem_append_left _ (allowWords_mem_notices.2 hlisted), hword⟩

theorem mem_disabled_configured (v : View σ ε) (checker : σ) (calls : List Call)
    {rules : List String} (hlisted : (language, rules) ∈ options.disabledChecks) {rule : String}
    (hrule : rule ∈ rules) :
    rule ∈ (v.settings (later (Report.configure options checker) calls)).disabled language := by
  rw [settings_configured, mem_disabled_foldl, mem_rulesDisabled]
  exact .inr ⟨rules, List.mem_append_left _ (disableChecks_mem_notices.2 hlisted), hrule⟩

theorem takesEffect (v : View σ ε) (options others : CheckOptions) (checker : σ) :
    TakesEffect v.record v.asks options others checker := by
  have hnotices : ∀ listed : CheckOptions, ∀ call ∈ notices listed, isNotice call = true :=
    fun _ _ => isNotice_of_mem_notices
  constructor
  case repeated =>
    intro n calls
    have hmem : ∀ call, call ∈ (List.replicate (n + 1) (notices options)).flatten ↔
        call ∈ notices options := by
      simp [List.mem_flatten]
    rw [iterate_configure, configure_eq_later]
    refine (v.alike_later checker (fun call hcall => ?_) (hnotices options) fun language _ =>
      agreeOn_of_mem_iff hmem language).seeAll_eq calls
    exact hnotices options call ((hmem call).1 hcall)
  case swapped =>
    intro calls
    have hboth : ∀ first second : CheckOptions, ∀ call ∈ notices first ++ notices second,
        isNotice call = true := fun first second =>
      List.forall_mem_append.2 ⟨hnotices first, hnotices second⟩
    have hmem : ∀ call, call ∈ notices options ++ notices others ↔
        call ∈ notices others ++ notices options := by
      simp [or_comm]
    simp only [configure_eq_later, ← later_append]
    exact (v.alike_later checker (hboth options others) (hboth others options) fun language _ =>
      agreeOn_of_mem_iff hmem language).seeAll_eq calls
  case disabled =>
    intro calls language text
    refine ⟨_, congrArg Seen.added (v.see_check _ language text), ?_⟩
    intro listed hlisted rule hrule
    exact mem_disabled_configured v checker calls hlisted hrule
  case allowed =>
    intro calls language text found hfound words hlisted s hs hmarked
    have hallowed := mem_allowed_configured v checker calls hlisted hmarked
    exact v.not_mem_allowed_of_found hfound hs hallowed
  case absent =>
    intro calls language text hwords hrules
    have halike : v.Alike (· = language) (Report.configure options checker) checker := by
      rw [configure_eq_later]
      refine v.alike_later checker (hnotices options) (List.forall_mem_nil _) ?_
      rintro _ rfl
      exact agreeOn_notices_nil hwords hrules
    exact (halike.later calls).see_check_eq rfl text

end

/-- Options take effect in all that a client or a bundled checker is asked later, whatever it was
asked before and whatever replies, starts and answers are to come. -/
theorem configure_takesEffect (options others : CheckOptions) :
    (∀ s : Session, TakesEffect Session.sent clientAsks options others s) ∧
      ∀ b : Bundled, TakesEffect Bundled.events engineAsks options others b :=
  ⟨takesEffect clientView options others, takesEffect bundledView options others⟩

end ProseTrace.Proofs.Report.Configuring
