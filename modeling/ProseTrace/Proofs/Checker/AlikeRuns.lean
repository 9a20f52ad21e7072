import ProseTrace.Proofs.Checker.EngineRuns

/-!
# Runs of two checkers

Two checkers of one kind get the same calls.  If they differ only in what they recorded and in what
they were told about some languages, then they differ so behind every run, and of a call to both the
same is seen unless it is a check of such a language.
-/

namespace ProseTrace.Proofs.Checker.AlikeRuns

open ProseTrace.Text ProseTrace.Finding ProseTrace.Checker
open ProseTrace.Proofs.Checker.SettingRuns ProseTrace.Proofs.Checker.EngineRuns

/-! ## What is seen of a run -/

/-- What is seen of a call: what it adds to the record of the checker, and its result. -/
structure Seen (ε : Type) where
  added : List ε
  result : Option (Except Fault (List Suggestion))

section

variable {σ ε : Type} [Backend σ]

def see (record : σ → List ε) (checker : σ) (call : Call) : Seen ε :=
  ⟨(record (perform checker call).2).drop (record checker).length, (perform checker call).1⟩

def seeAll (record : σ → List ε) (checker : σ) : List Call → List (Seen ε)
  | [] => []
  | call :: rest => see record checker call :: seeAll record (perform checker call).2 rest

def later (checker : σ) (calls : List Call) : σ :=
  calls.foldl (fun checker call => (perform checker call).2) checker

theorem later_append (checker : σ) (calls others : List Call) :
    later checker (calls ++ others) = later (later checker calls) others := List.foldl_append

theorem see_of_append {record : σ → List ε} (checker : σ) {call : Call} {more : List ε}
    (h : record (perform checker call).2 = record checker ++ more) :
    see record checker call = ⟨more, (perform checker call).1⟩ := by
  rw [see, h, List.drop_left]

theorem see_of_silent {record : σ → List ε} (checker : σ) {call : Call}
    (h : record (perform checker call).2 = record checker) :
    see record checker call = ⟨[], (perform checker call).1⟩ :=
  see_of_append checker (h.trans (List.append_nil _).symm)

end

/-! ## Settings of a language -/

section

variable {language : String} {settings others : Settings}

theorem extend_eq {sets more : String → WordSet} (h : sets language = more language)
    (other : String) (words : List String) :
    Settings.extend sets other words language = Settings.extend more other words language := by
  rw [Settings.extend, Settings.extend, h]

theorem sameFor_afterCall (h : SameFor language settings others) (call : Call) :
    SameFor language (afterCall settings call) (afterCall others call) := by
  cases call with
  | allowWords other words => exact ⟨extend_eq h.allowed_eq other words, h.disabled_eq⟩
  | disableChecks other rules => exact ⟨h.allowed_eq, extend_eq h.disabled_eq other rules⟩
  | check _ _ => exact h
  | close => exact h

theorem not_mem_allowed_of_mem_filter {text : String} {found : List Suggestion} {s : Suggestion}
    (h : s ∈ settings.filter language text found) :
    String.ofList (s.marked text.toList) ∉ settings.allowed language := by
  have hfree := (List.mem_filter.1 h).2
  rwa [Settings.isAllowed, ← decide_not, decide_eq_true_iff] at hfree

end

/-! ## Looking at checkers -/

/-- The call tells the words or the rules of a language. -/
def isNotice : Call → Bool
  | .allowWords _ _ => true
  | .disableChecks _ _ => true
  | _ => false

def isCheck : Call → Bool
  | .check _ _ => true
  | _ => false

/-- A way to look at checkers of one kind: at their settings, at the record of what they did, and at
what is left of them without both.  What is left decides what a check adds to the record, given the
rules that are disabled in its language, and what it finds, before allowed words are left out.  The
settings are those that the calls make, and notices change nothing else. -/
structure View (σ ε : Type) [Backend σ] where
  settings : σ → Settings
  record : σ → List ε
  bare : σ → σ
  asks : σ → String → String → List String → List ε
  finds : σ → String → String → Except Fault (List Suggestion)
  settings_perform (s : σ) (call : Call) :
    settings (perform s call).2 = afterCall (settings s) call
  bare_notice (s : σ) (call : Call) (hnotice : isNotice call = true) :
    bare (perform s call).2 = bare s
  bare_perform (s : σ) (call : Call) : bare (perform s call).2 = bare (perform (bare s) call).2
  asks_bare (s : σ) : asks (bare s) = asks s
  finds_bare (s : σ) : finds (bare s) = finds s
  see_check (s : σ) (language text : String) :
    see record s (.check language text) =
      ⟨asks s language text ((settings s).disabled language).toList,
        some ((finds s language text).map ((settings s).filter language text))⟩
  see_other (s : σ) (call : Call) (hother : isCheck call = false) :
    see record s call = see record (bare s) call

namespace View

variable {σ ε : Type} [Backend σ]

/-- The checkers differ at most in their records and in the settings of other languages. -/
structure Alike (v : View σ ε) (covers : String → Prop) (s t : σ) : Prop where
  bare_eq : v.bare s = v.bare t
  sameFor {language : String} (hcovers : covers language) :
    SameFor language (v.settings s) (v.settings t)

variable {v : View σ ε} {covers : String → Prop} {s t : σ} {calls others : List Call}

theorem settings_later (v : View σ ε) (s : σ) (calls : List Call) :
    v.settings (later s calls) = calls.foldl afterCall (v.settings s) := by
  induction calls generalizing s with
  | nil => rfl
  | cons call rest ih =>
    have hrest : v.settings (later s (call :: rest)) =
      rest.foldl afterCall (v.settings (perform s call).2) := ih (perform s call).2
    rw [hrest, v.settings_perform, List.foldl_cons]

theorem bare_later (v : View σ ε) (s : σ) (hnotices : ∀ call ∈ calls, isNotice call = true) :
    v.bare (later s calls) = v.bare s := by
  induction calls generalizing s with
  | nil => rfl
  | cons call rest ih =>
    obtain ⟨hcall, hrest⟩ := List.forall_mem_cons.1 hnotices
    exact (ih (perform s call).2 hrest).trans (v.bare_notice s call hcall)

theorem alike_later (v : View σ ε) (s : σ) (hcalls : ∀ call ∈ calls, isNotice call = true)
    (hothers : ∀ call ∈ others, isNotice call = true)
    (hagree : ∀ language, covers language → AgreeOn language calls others) :
    v.Alike covers (later s calls) (later s others) where
  bare_eq := by rw [v.bare_later s hcalls, v.bare_later s hothers]
  sameFor {language} hcovers := by
    rw [v.settings_later, v.settings_later]
    exact (hagree language hcovers).sameFor_foldl (v.settings s)

theorem Alike.perform (h : v.Alike covers s t) (call : Call) :
    v.Alike covers (perform s call).2 (perform t call).2 where
  bare_eq := by rw [v.bare_perform s, v.bare_perform t, h.bare_eq]
  sameFor hcovers := by
    rw [v.settings_perform, v.settings_perform]
    exact sameFor_afterCall (h.sameFor hcovers) call

/-- Checkers that are alike stay so, whatever the calls. -/
theorem Alike.later (h : v.Alike covers s t) (calls : List Call) :
    v.Alike covers (later s calls) (later t calls) := by
  induction calls generalizing s t with
  | nil => exact h
  | cons call rest ih => exact ih (h.perform call)

theorem Alike.see_check_eq (h : v.Alike covers s t) {language : String} (hcovers : covers language)
    (text : String) :
    see v.record s (.check language text) = see v.record t (.check language text) := by
  have hsame := h.sameFor hcovers
  rw [v.see_check, v.see_check, ← v.asks_bare s, ← v.finds_bare s, h.bare_eq, v.asks_bare,
    v.finds_bare, hsame.disabled_eq, hsame.filter_eq]

/-- Checkers that are alike in all languages are seen alike, whatever the calls. -/
theorem Alike.seeAll_eq (h : v.Alike (fun _ => True) s t) (calls : List Call) :
    seeAll v.record s calls = seeAll v.record t calls := by
  induction calls generalizing s t with
  | nil => rfl
  | cons call rest ih =>
    have hfirst : see v.record s call = see v.record t call := by
      cases call with
      | check language text => exact h.see_check_eq trivial text
      | _ => rw [v.see_other s _ rfl, v.see_other t _ rfl, h.bare_eq]
    rw [seeAll, seeAll, hfirst, ih (h.perform call)]

/-- No check returns a suggestion that marks an allowed word. -/
theorem not_mem_allowed_of_found (v : View σ ε) {language text : String} {found : List Suggestion}
    (hfound : (see v.record s (.check language text)).result = some (.ok found))
    {suggestion : Suggestion} (hmem : suggestion ∈ found) :
    String.ofList (suggestion.marked text.toList) ∉ (v.settings s).allowed language := by
  rw [v.see_check] at hfound
  cases hfinds : v.finds s language text with
  | error fault =>
    rw [hfinds] at hfound
    cases hfound
  | ok all =>
    rw [hfinds] at hfound
    obtain rfl : (v.settings s).filter language text all = found :=
      Except.ok.inj (Option.some.inj hfound)
    exact not_mem_allowed_of_mem_filter hmem

end View

/-! ## Clients -/

section

variable (s : Session) (language text : String)

/-- The request of a check, unless the client was closed. -/
def clientAsks (rules : List String) : List Request :=
  if s.remote.connection.isUsable then
    [⟨"POST", "/v2/check", [("text", text), ("language", language)] ++
      if rules.isEmpty then [] else [("disabledRules", ",".intercalate rules)]⟩]
  else []

/-- What is read in the next reply, unless the client was closed. -/
def clientFinds : Except Fault (List Suggestion) :=
  if s.remote.connection.isUsable then s.remote.readReply text (s.replies.headD Session.noReply)
  else .error .clientClosed

/-- The session without what the client was told and without the requests it sent. -/
def bareSession : Session := ⟨{ s.remote with settings := .empty }, s.replies, []⟩

theorem perform_check_session :
    perform s (.check language text) =
      (some ((clientFinds s text).map (s.remote.settings.filter language text)),
        ⟨s.remote, if s.remote.connection.isUsable then s.replies.tail else s.replies,
          s.sent ++ clientAsks s language text (s.remote.settings.disabled language).toList⟩) := by
  rw [perform, clientFinds, clientAsks]
  by_cases h : s.remote.connection.isUsable = true
  · have hvalue : (Backend.check s language text).value = _ := value_check_of_isUsable h
    rw [hvalue, if_pos h, if_pos h, if_pos h]
    rfl
  · have hvalue : (Backend.check s language text).value = _ := value_check_of_not_isUsable h
    rw [hvalue, if_neg h, if_neg h, if_neg h, List.append_nil]
    rfl

end

def clientView : View Session Request where
  settings s := s.remote.settings
  record := Session.sent
  bare := bareSession
  asks := clientAsks
  finds s _ := clientFinds s
  settings_perform s call := by
    cases call with
    | check language text => rw [perform_check_session]; rfl
    | _ => rfl
  bare_notice s call hnotice := by
    cases call with
    | allowWords _ _ => rfl
    | disableChecks _ _ => rfl
    | _ => cases hnotice
  bare_perform s call := by
    cases call with
    | check language text => rw [perform_check_session, perform_check_session]; rfl
    | _ => rfl
  asks_bare _ := rfl
  finds_bare _ := rfl
  see_check s language text := by
    have hperform := perform_check_session s language text
    rw [see_of_append s (congrArg (Session.sent ∘ Prod.snd) hperform), hperform]
  see_other s call hother := by
    cases call with
    | check _ _ => cases hother
    | _ => rw [see_of_silent s, see_of_silent (bareSession s)] <;> rfl

/-! ## Bundled checkers -/

section

variable (b : Bundled) (language text : String)

/-- A check starts an engine if its language has none, and the engine checks if it runs then. -/
def engineAsks (rules : List String) : List EngineEvent :=
  if language ∈ b.running then [.check language rules text]
  else if (b.starts.headD none).isSome then [.start language]
  else [.start language, .check language rules text]

/-- What is found in the next answer, if an engine runs or can be started. -/
def engineFinds : Except Fault (List Suggestion) :=
  if language ∈ b.running then Bundled.readAnswer (b.answers.headD (.findings []))
  else match b.starts.headD none with
    | some reason => .error (.backend (.engineNotStarted language reason))
    | none => Bundled.readAnswer (b.answers.headD (.findings []))

def engineNext : Bundled :=
  if language ∈ b.running then { b with answers := b.answers.tail }
  else if (b.starts.headD none).isSome then { b with starts := b.starts.tail }
  else { b with
    starts := b.starts.tail
    answers := b.answers.tail
    running := b.running ++ [language] }

/-- The checker without what it was told and without what was done. -/
def bareBundled : Bundled := { b with settings := .empty, events := [] }

theorem bareBundled_engineNext :
    bareBundled (engineNext (bareBundled b) language) = bareBundled (engineNext b language) := by
  rw [bareBundled, bareBundled, bareBundled, engineNext, engineNext]
  by_cases h : language ∈ b.running
  · rw [if_pos h, if_pos h]
  · rw [if_neg h, if_neg h]
    by_cases hstart : (b.starts.headD none).isSome = true
    · rw [if_pos hstart, if_pos hstart]
    · rw [if_neg hstart, if_neg hstart]

theorem perform_check_bundled :
    perform b (.check language text) =
      (some ((engineFinds b language).map (b.settings.filter language text)),
        { engineNext b language with
          settings := b.settings
          events := b.events ++
            engineAsks b language text (b.settings.disabled language).toList }) := by
  rw [perform, engineFinds, engineNext, engineAsks]
  by_cases h : language ∈ b.running
  · have hvalue : (Backend.check b language text).value = _ := value_check_of_mem h text
    rw [hvalue, if_pos h, if_pos h, if_pos h]
    rfl
  · rw [if_neg h, if_neg h, if_neg h]
    cases hstart : b.starts.headD none with
    | some reason =>
      have hvalue : (Backend.check b language text).value = _ :=
        value_check_of_refused h hstart text
      rw [hvalue]
      rfl
    | none =>
      have hvalue : (Backend.check b language text).value = _ :=
        value_check_of_started h hstart text
      rw [hvalue, Bundled.askEngine, List.append_assoc]
      rfl

end

/-- A bundled checker is looked at by the events of its engines. -/
def bundledView : View Bundled EngineEvent where
  settings b := b.settings
  record := Bundled.events
  bare := bareBundled
  asks := engineAsks
  finds b language _ := engineFinds b language
  settings_perform b call := by
    cases call with
    | check language text => rw [perform_check_bundled]; rfl
    | _ => rfl
  bare_notice b call hnotice := by
    cases call with
    | allowWords _ _ => rfl
    | disableChecks _ _ => rfl
    | _ => cases hnotice
  bare_perform b call := by
    cases call with
    | check language text =>
      rw [perform_check_bundled, perform_check_bundled]
      exact (bareBundled_engineNext b language).symm
    | _ => rfl
  asks_bare _ := rfl
  finds_bare _ := rfl
  see_check b language text := by
    have hperform := perform_check_bundled b language text
    rw [see_of_append b (congrArg (Bundled.events ∘ Prod.snd) hperform), hperform]
  see_other b call hother := by
    cases call with
    | check _ _ => cases hother
    | close => rw [see_of_append b, see_of_append (bareBundled b)] <;> rfl
    | _ => rw [see_of_silent b, see_of_silent (bareBundled b)] <;> rfl

end ProseTrace.Proofs.Checker.AlikeRuns
