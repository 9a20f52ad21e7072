import Mathlib.Data.List.Induction
import ProseTrace.Proofs.Checker.SettingRuns

/-!
# Runs of a client

A client with a lent connection is called and pinged in any order.  What a check sends and what comes
of it depend on the words and rules of its language and on the reply that it gets, and on nothing
else of what went before.
-/

namespace ProseTrace.Proofs.Checker.ClientRuns

open ProseTrace.Text ProseTrace.Finding ProseTrace.Checker
open ProseTrace.Proofs.Checker.SettingRuns

/-! ## Turns -/

inductive Turn where
  | call (call : Call)
  | ping
  deriving DecidableEq

def Turn.call? : Turn → Option Call
  | .call c => some c
  | .ping => none

def Turn.isExchange : Turn → Bool
  | .call (.check _ _) => true
  | .ping => true
  | _ => false

def callsOf (turns : List Turn) : List Call := turns.filterMap Turn.call?

inductive Answer where
  | called (result : Option (Except Fault (List Suggestion)))
  | pinged (result : Except Fault Bool)

def take (s : Session) : Turn → Answer × Session
  | .call call => (.called (perform s call).1, (perform s call).2)
  | .ping => (.pinged s.ping.1, s.ping.2)

def after (s : Session) (turns : List Turn) : Session :=
  turns.foldl (fun s turn => (take s turn).2) s

/-- A client with a lent connection, before its first turn. -/
def opened (baseUrl : String) (maxDepth : Nat) (replies : List Reply) : Session :=
  .start ⟨baseUrl, .empty, .lent, maxDepth⟩ replies

theorem after_concat (s : Session) (turns : List Turn) (turn : Turn) :
    after s (turns ++ [turn]) = (take (after s turns) turn).2 := by
  rw [after, List.foldl_append]
  rfl

theorem callsOf_concat (turns : List Turn) (turn : Turn) :
    callsOf (turns ++ [turn]) = callsOf turns ++ turn.call?.toList := by
  rw [callsOf, List.filterMap_append]
  cases turn <;> rfl

/-! ## The state behind a run -/

/-- The session of a client with a lent connection that was told these calls. -/
structure Stands (baseUrl : String) (maxDepth : Nat) (calls : List Call) (replies : List Reply)
    (s : Session) : Prop where
  remote_eq : s.remote = ⟨baseUrl, settingsAfter calls, .lent, maxDepth⟩
  replies_eq : s.replies = replies

section

variable {baseUrl : String} {maxDepth : Nat} {calls : List Call} {replies : List Reply} {s : Session}

theorem Stands.isUsable (h : Stands baseUrl maxDepth calls replies s) :
    s.remote.connection.isUsable = true := by
  rw [h.remote_eq]
  rfl

theorem Stands.check_eq (h : Stands baseUrl maxDepth calls replies s) (language text : String) :
    (s.check language text).value =
      ((s.remote.readReply text (replies.headD Session.noReply)).map
        (unallowed calls language text),
        ⟨s.remote, replies.tail, s.sent ++ [s.remote.checkRequest language text]⟩) := by
  have hfilter : s.remote.settings.filter language text = unallowed calls language text := by
    rw [h.remote_eq]
    exact funext fun found => filter_settingsAfter calls language text found
  rw [value_check_of_isUsable h.isUsable, hfilter, h.replies_eq]

theorem Stands.take (h : Stands baseUrl maxDepth calls replies s) (turn : Turn) :
    Stands baseUrl maxDepth (calls ++ turn.call?.toList)
      (if turn.isExchange then replies.tail else replies) (take s turn).2 := by
  obtain ⟨remote, _, sent⟩ := s
  obtain ⟨rfl, rfl⟩ := h
  cases turn with
  | ping => exact ⟨by rw [Turn.call?, Option.toList_none, List.append_nil]; rfl, rfl⟩
  | call call =>
    rw [Turn.call?, Option.toList_some]
    cases call with
    | allowWords language words => exact ⟨by rw [settingsAfter_concat]; rfl, rfl⟩
    | disableChecks language rules => exact ⟨by rw [settingsAfter_concat]; rfl, rfl⟩
    | check language text => exact ⟨by rw [settingsAfter_concat]; rfl, rfl⟩
    | close => exact ⟨by rw [settingsAfter_concat]; rfl, rfl⟩

end

/-- Behind any run the client has the settings that it was told, and waits for the reply that
follows those it has taken. -/
theorem stands_after (baseUrl : String) (maxDepth : Nat) (replies : List Reply) (turns : List Turn) :
    Stands baseUrl maxDepth (callsOf turns) (replies.drop (turns.countP Turn.isExchange))
      (after (opened baseUrl maxDepth replies) turns) := by
  induction turns using List.reverseRecOn with
  | nil => exact ⟨rfl, rfl⟩
  | append_singleton turns turn ih =>
    rw [after_concat, callsOf_concat, List.countP_append, List.countP_singleton]
    have hnext := ih.take turn
    split
    next hexchange =>
      rw [if_pos hexchange, List.tail_drop] at hnext
      exact hnext
    next hsilent =>
      rw [if_neg hsilent] at hnext
      exact hnext

/-! ## What is seen of a run -/

/-- What is seen of a turn: the requests that it sends and what comes of it. -/
structure Sight where
  sent : List Request
  answer : Answer

def sight (s : Session) (turn : Turn) : Sight :=
  ⟨(take s turn).2.sent.drop s.sent.length, (take s turn).1⟩

def sights (s : Session) : List Turn → List Sight
  | [] => []
  | turn :: rest => sight s turn :: sights (take s turn).2 rest

section

variable {baseUrl : String} {maxDepth : Nat} {calls others : List Call} {replies : List Reply}
  {s t : Session}

theorem Stands.sight_check (h : Stands baseUrl maxDepth calls replies s) (language text : String) :
    sight s (.call (.check language text)) =
      ⟨[s.remote.checkRequest language text],
        .called (some ((s.remote.readReply text (replies.headD Session.noReply)).map
          (unallowed calls language text)))⟩ := by
  have hvalue : (Backend.check s language text).value = _ := h.check_eq language text
  simp only [sight, ClientRuns.take, perform, hvalue, List.drop_left]

theorem Stands.sight_ping (h : Stands baseUrl maxDepth calls replies s) :
    sight s .ping = ⟨[Remote.pingRequest],
      .pinged (Remote.readPong (replies.headD Session.noReply))⟩ := by
  simp only [sight, ClientRuns.take, Session.ping, Session.exchange, h.isUsable, if_true,
    h.replies_eq, List.drop_left]

theorem Stands.sight_eq (hs : Stands baseUrl maxDepth calls replies s)
    (ht : Stands baseUrl maxDepth calls replies t)
    (turn : Turn) : sight s turn = sight t turn := by
  have hremote : s.remote = t.remote := by rw [hs.remote_eq, ht.remote_eq]
  have hsilent : ∀ sent : List Request, sent.drop sent.length = [] := fun _ => List.drop_length
  cases turn with
  | ping => rw [hs.sight_ping, ht.sight_ping]
  | call call =>
    cases call with
    | check language text => rw [hs.sight_check, ht.sight_check, hremote]
    | _ =>
      simp only [sight, ClientRuns.take, perform]
      exact congrArg₂ Sight.mk ((hsilent _).trans (hsilent _).symm) rfl

/-- Sessions that stand alike are seen alike, whatever their turns. -/
theorem Stands.sights_eq (hs : Stands baseUrl maxDepth calls replies s)
    (ht : Stands baseUrl maxDepth calls replies t) (turns : List Turn) :
    sights s turns = sights t turns := by
  induction turns generalizing calls replies s t with
  | nil => rfl
  | cons turn rest ih => rw [sights, sights, hs.sight_eq ht, ih (hs.take turn) (ht.take turn)]

/-- A check is seen alike in sessions that were told the same about its language. -/
theorem Stands.sight_check_eq (hs : Stands baseUrl maxDepth calls replies s)
    {later : List Reply} (ht : Stands baseUrl maxDepth others later t)
    (hreply : replies.headD Session.noReply = later.headD Session.noReply) {language : String}
    (hagree : AgreeOn language calls others) (text : String) :
    sight s (.call (.check language text)) = sight t (.call (.check language text)) := by
  have hrequest : s.remote.checkRequest language text = t.remote.checkRequest language text := by
    simp only [Remote.checkRequest, hs.remote_eq, ht.remote_eq, hagree.sameFor.disabled_eq]
  have hleft : unallowed calls language text = unallowed others language text := by
    funext found
    rw [← filter_settingsAfter, ← filter_settingsAfter, hagree.sameFor.filter_eq]
  have hread : s.remote.readReply = t.remote.readReply := by
    rw [hs.remote_eq, ht.remote_eq]
    rfl
  rw [hs.sight_check, ht.sight_check, hrequest, hleft, hread, hreply]

end

/-- A check sends one request, which names its text and language and the rules disabled in that
language so far.  If the reply is read, what is found is what it marks beside the words allowed in
that language so far.  Runs that say the same about the language and get the same reply make no
difference to the check; runs that say the same about every language make none to anything that
follows. -/
theorem sight_check_after (baseUrl : String) (maxDepth : Nat) (replies : List Reply)
    (turns : List Turn) (language text : String) :
    (∃ request result,
      sight (after (opened baseUrl maxDepth replies) turns) (.call (.check language text)) =
        ⟨[request], .called (some result)⟩ ∧
      Requests (callsOf turns) language text request ∧
      ∀ found,
        IsRead maxDepth text (replies.getD (turns.countP Turn.isExchange) Session.noReply) found →
        result = .ok (unallowed (callsOf turns) language text found)) ∧
    (∀ others later, AgreeOn language (callsOf turns) (callsOf others) →
      replies.getD (turns.countP Turn.isExchange) Session.noReply =
        later.getD (others.countP Turn.isExchange) Session.noReply →
      sight (after (opened baseUrl maxDepth later) others) (.call (.check language text)) =
        sight (after (opened baseUrl maxDepth replies) turns) (.call (.check language text))) ∧
    (∀ others later, (∀ name, AgreeOn name (callsOf turns) (callsOf others)) →
      replies.drop (turns.countP Turn.isExchange) = later.drop (others.countP Turn.isExchange) →
      ∀ next, sights (after (opened baseUrl maxDepth later) others) next =
        sights (after (opened baseUrl maxDepth replies) turns) next) := by
  have hstands := stands_after baseUrl maxDepth replies turns
  have hnext : ∀ (script : List Reply) n,
      (script.drop n).headD Session.noReply = script.getD n Session.noReply := by
    intro script n
    rw [List.headD_eq_head?_getD, List.head?_drop, List.getD_eq_getElem?_getD]
  refine ⟨?_, ?_, ?_⟩
  · refine ⟨_, _, hstands.sight_check language text, ?_, ?_⟩
    · exact requests_checkRequest (by rw [hstands.remote_eq]) language text
    · intro found hread
      rw [hnext, readReply_of_isRead (by rw [hstands.remote_eq]; exact hread)]
      rfl
  · intro others later hagree hreply
    rw [← hnext, ← hnext] at hreply
    exact (stands_after baseUrl maxDepth later others).sight_check_eq hstands hreply.symm
      hagree.symm text
  · intro others later hagree hreplies next
    have hothers := stands_after baseUrl maxDepth later others
    rw [← hreplies] at hothers
    have hsame : Stands baseUrl maxDepth (callsOf turns) (replies.drop (turns.countP Turn.isExchange))
        (after (opened baseUrl maxDepth later) others) :=
      ⟨by rw [hothers.remote_eq, settingsAfter_eq hagree], hothers.replies_eq⟩
    exact hsame.sights_eq hstands next

end ProseTrace.Proofs.Checker.ClientRuns
