import Mathlib
import ProseTrace.Proofs.Checker.EngineRuns
import ProseTrace.Proofs.Checker.MatchReading

/-!
# Checkers that find the same

The bundled checker is told its findings by characters, a client by UTF-16 units.  Where the engine
and the server report the same findings at each check of a run, the two checkers give the same
results, whatever words were allowed and whatever rules were disabled.
-/

namespace ProseTrace.Proofs.Checker.SameFindings

open ProseTrace.Text ProseTrace.Finding ProseTrace.Checker
open ProseTrace.Proofs.Checker.SettingRuns ProseTrace.Proofs.Checker.MatchReading
open ProseTrace.Proofs.Checker.EngineRuns

/-! ## Reports -/

/-- What an engine says of a suggestion: its place and size in characters. -/
def findingOf (s : Suggestion) : EngineFinding := ⟨s.start, (s.stop : Int) - s.start, s.remark⟩

/-- A reply of success whose payload describes these suggestions by UTF-16 units. -/
def IsReported (maxDepth : Nat) (text : List Char) (reply : Reply) (found : List Suggestion) :
    Prop :=
  ∃ status body payload, reply = .response status body ∧ isSuccess status = true ∧
    Json.ofBytes maxDepth body = .ok payload ∧ DescribesAll text payload found

/-- An engine and a server report the same findings on a text. -/
def ReportSame (maxDepth : Nat) (text : List Char) (answer : EngineAnswer) (reply : Reply) : Prop :=
  ∃ found, answer = .findings (found.map findingOf) ∧ IsReported maxDepth text reply found

/-- At a check the engine runs or can be started, the server can be asked, and both report the same
findings. -/
def Concur (b : Bundled) (s : Session) : Call → Prop
  | .check language text =>
    (language ∈ b.running ∨ b.starts.headD none = none) ∧
      s.remote.connection.isUsable = true ∧
      ReportSame s.remote.maxDepth text.toList (b.answers.headD (.findings []))
        (s.replies.headD Session.noReply)
  | _ => True

/-- The same findings are reported at each check of a run. -/
def ConcurThroughout (b : Bundled) (s : Session) : List Call → Prop
  | [] => True
  | call :: rest => Concur b s call ∧ ConcurThroughout (perform b call).2 (perform s call).2 rest

/-- What comes of the calls of a run, one after the other. -/
def results {σ : Type} [Backend σ] (checker : σ) :
    List Call → List (Option (Except Fault (List Suggestion)))
  | [] => []
  | call :: rest => (perform checker call).1 :: results (perform checker call).2 rest

theorem suggestionOf_findingOf (s : Suggestion) : Bundled.suggestionOf (findingOf s) = .ok s := by
  have hstop : (s.start : Int) + ((s.stop : Int) - s.start) = s.stop := by omega
  rw [Bundled.suggestionOf, findingOf, hstop, ofInts_eq_ok]
  rfl

theorem readAnswer_eq_ok (found : List Suggestion) :
    Bundled.readAnswer (.findings (found.map findingOf)) = .ok found := by
  apply mapM_eq_ok_of_forall₂
  rw [List.forall₂_map_left_iff]
  exact List.forall₂_same.2 fun s _ => suggestionOf_findingOf s

theorem isRead_of_isReported {maxDepth : Nat} {text : String} {reply : Reply}
    {found : List Suggestion} (h : IsReported maxDepth text.toList reply found) :
    IsRead maxDepth text reply found := by
  obtain ⟨status, body, payload, hreply, hsuccess, hbody, hpayload⟩ := h
  exact ⟨status, body, payload, hreply, hsuccess, hbody, readMatches_eq_ok hpayload⟩

/-! ## Steps -/

section

variable {b : Bundled} {s : Session} {language text : String} {found : List Suggestion}

/-- An engine that is there gives the suggestions of its findings, without those on allowed words. -/
theorem fst_check_of_findings (hready : language ∈ b.running ∨ b.starts.headD none = none)
    (hanswer : b.answers.headD (.findings []) = .findings (found.map findingOf)) (text : String) :
    (b.check language text).value.1 = .ok (b.settings.filter language text found) ∧
      (b.check language text).value.2.settings = b.settings := by
  have hask : ∀ ready : Bundled, ready.settings = b.settings → ready.answers = b.answers →
      (ready.askEngine language text).1 = .ok (b.settings.filter language text found) := by
    intro ready hsettings hanswers
    rw [Bundled.askEngine, hsettings, hanswers, hanswer, readAnswer_eq_ok]
    rfl
  by_cases hopen : language ∈ b.running
  · rw [value_check_of_mem hopen]
    exact ⟨hask b rfl rfl, rfl⟩
  · rw [value_check_of_started hopen (hready.resolve_left hopen)]
    exact ⟨hask _ rfl rfl, rfl⟩

/-- A client that can ask gives the suggestions in the reply, without those on allowed words. -/
theorem fst_check_of_isReported (husable : s.remote.connection.isUsable = true)
    (hreply : IsReported s.remote.maxDepth text.toList (s.replies.headD Session.noReply) found)
    (language : String) :
    (s.check language text).value.1 = .ok (s.remote.settings.filter language text found) ∧
      (s.check language text).value.2.remote.settings = s.remote.settings := by
  rw [value_check_of_isUsable husable, readReply_of_isRead (isRead_of_isReported hreply)]
  exact ⟨rfl, rfl⟩

/-- Checkers with the same settings that are told the same findings give the same result, which is
no fault, and have the same settings again. -/
theorem perform_eq_of_concur (hsettings : b.settings = s.remote.settings) {call : Call}
    (h : Concur b s call) :
    (perform b call).1 = (perform s call).1 ∧
      (∀ fault, (perform s call).1 ≠ some (.error fault)) ∧
      (perform b call).2.settings = (perform s call).2.remote.settings := by
  cases call with
  | allowWords language words =>
    exact ⟨rfl, fun _ h => (nomatch h), congrArg (Settings.allow · language words) hsettings⟩
  | disableChecks language rules =>
    exact ⟨rfl, fun _ h => (nomatch h), congrArg (Settings.disable · language rules) hsettings⟩
  | close => exact ⟨rfl, fun _ h => (nomatch h), hsettings⟩
  | check language text =>
    obtain ⟨hready, husable, found, hanswer, hreply⟩ := h
    obtain ⟨hbundled, hkept⟩ := fst_check_of_findings hready hanswer text
    obtain ⟨hremote, hsame⟩ := fst_check_of_isReported husable hreply language
    have hresult : (perform s (.check language text)).1 =
        some (.ok (s.remote.settings.filter language text found)) := congrArg some hremote
    refine ⟨?_, fun fault hfault => ?_, hkept.trans (hsettings.trans hsame.symm)⟩
    · rw [hresult, ← hsettings]
      exact congrArg some hbundled
    · cases hresult.symm.trans hfault

end

theorem results_eq {b : Bundled} {s : Session} {calls : List Call}
    (hsettings : b.settings = s.remote.settings) (h : ConcurThroughout b s calls) :
    results b calls = results s calls ∧ ∀ fault, some (.error fault) ∉ results s calls := by
  induction calls generalizing b s with
  | nil => exact ⟨rfl, fun _ => List.not_mem_nil⟩
  | cons call rest ih =>
    obtain ⟨hcall, hrest⟩ := h
    obtain ⟨hresult, hok, hnext⟩ := perform_eq_of_concur hsettings hcall
    obtain ⟨hresults, hoks⟩ := ih hnext hrest
    refine ⟨by rw [results, results, hresult, hresults], fun fault hmem => ?_⟩
    rcases List.mem_cons.1 hmem with hfirst | hlater
    · exact hok fault hfirst.symm
    · exact hoks fault hlater

/-! ## Runs -/

/-- A bundled checker and a client that are new, are called alike, and are told the same findings at
each check, also of characters that take two units: all their results are the same, and none is a
fault. -/
theorem results_eq_of_concurThroughout (baseUrl : String) (connection : Connection)
    (maxDepth : Nat) (starts : List (Option String)) (answers : List EngineAnswer)
    (replies : List Reply)
    (calls : List Call)
    (h : ConcurThroughout (.new starts answers)
      (.start ⟨baseUrl, .empty, connection, maxDepth⟩ replies) calls) :
    results (Bundled.new starts answers) calls =
      results (Session.start ⟨baseUrl, .empty, connection, maxDepth⟩ replies) calls ∧
    ∀ fault, some (.error fault) ∉
      results (Session.start ⟨baseUrl, .empty, connection, maxDepth⟩ replies) calls :=
  results_eq rfl h

def findingAt (place : Nat) (message : String) : Suggestion where
  start := place
  stop := place + 1
  remark := ⟨.text message, [], .text "", .text ""⟩
  start_le_stop := Nat.le_add_right place 1

def wideFinding : Suggestion := findingAt 0 "odd"

def letterFinding : Suggestion := findingAt 1 "loud"

def wideAnswer : String :=
  "\x7b\"matches\":[" ++
    "\x7b\"offset\":0,\"length\":2,\"message\":\"odd\"\x7d," ++
    "\x7b\"offset\":2,\"length\":1,\"message\":\"loud\"\x7d]\x7d"

def widePayload : Json :=
  .object [("matches", .list [
    .object [("offset", .integer 0), ("length", .integer 2), ("message", .text "odd")],
    .object [("offset", .integer 2), ("length", .integer 1), ("message", .text "loud")]])]

def wideReply : Reply := .response 200 (wideAnswer.toList.map fun c => UInt8.ofNat c.toNat)

theorem isReported_wideReply :
    IsReported 1000 "😀b".toList wideReply [wideFinding, letterFinding] := by
  have hbody : Json.ofBytes 1000 (wideAnswer.toList.map fun c => UInt8.ofNat c.toNat) =
      .ok widePayload := by cbv
  refine ⟨_, _, widePayload, rfl, rfl, hbody, _, _, rfl, rfl, ?_⟩
  refine .cons ⟨_, rfl, ?_⟩ (.cons ⟨_, rfl, ?_⟩ .nil)
  · exact ⟨by decide, rfl, rfl, rfl, rfl, [], rfl, rfl, rfl⟩
  · exact ⟨by decide, rfl, rfl, rfl, rfl, [], rfl, rfl, rfl⟩

/-- Both checkers leave out the letter, which is an allowed word. -/
theorem results_eq_of_wideReply :
    results (Session.start ⟨"http://localhost:8081", .empty, .owned true, 1000⟩ [wideReply])
      [.allowWords "en-US" ["b"], .check "en-US" "😀b"] = [none, some (.ok [wideFinding])] := by
  have hsame : ConcurThroughout (.new [] [.findings ([wideFinding, letterFinding].map findingOf)])
      (.start ⟨"http://localhost:8081", .empty, .owned true, 1000⟩ [wideReply])
      [.allowWords "en-US" ["b"], .check "en-US" "😀b"] :=
    ⟨trivial, ⟨.inr rfl, rfl, _, rfl, isReported_wideReply⟩, trivial⟩
  rw [← (results_eq_of_concurThroughout _ _ _ _ _ _ _ hsame).1]
  rfl

end ProseTrace.Proofs.Checker.SameFindings
