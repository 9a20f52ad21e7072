import ProseTrace.Checker.Backend
import ProseTrace.Proofs.Checker.ServerWatch

/-!
# Runs of a server

A server is called in any order while its process may exit at any moment and its files may change.
Over the whole run at most one process is alive, a check is requested only of a process that has
answered a ping, and what it asks for and leaves out is what all calls so far have said, whatever
has crashed, failed to start or was started again between them.  That a process has answered needs
that no ping ends in an error of the client; the rest holds for all pings.
-/

namespace ProseTrace.Proofs.Checker.ServerRuns

open ProseTrace.Document ProseTrace.Finding ProseTrace.Checker
open ProseTrace.Proofs.Checker.HostWatch ProseTrace.Proofs.Checker.ServerWatch
open ProseTrace.Proofs.Checker.SettingRuns

/-! ## Moves -/

/-- What can happen to a server between two of its calls, and the calls themselves. -/
inductive Move where
  | call (call : Call)
  | exit (code : Int)
  | files (tree : FileTree)

def Move.call? : Move → Option Call
  | .call c => some c
  | _ => none

def Move.isCheck : Move → Bool
  | .call (.check _ _) => true
  | _ => false

def callsOf (moves : List Move) : List Call := moves.filterMap Move.call?

/-- What comes of a move: the server behind it and, for a check, its result. -/
def take (s : Server) : Move → Option (Except Fault (List Suggestion)) × Server
  | .call call => perform s call
  | .exit code => (none, { s with host := s.host.exitLast code })
  | .files tree => (none, { s with host := { s.host with files := tree } })

def isLeft : Option (Except Fault (List Suggestion)) → Bool
  | some (.error .endlessWait) => false
  | _ => true

/-- The server behind a run, if all its moves are left. -/
def run (s : Server) : List Move → Option Server
  | [] => some s
  | move :: rest => if isLeft (take s move).1 then run (take s move).2 rest else none

def Closed (moves : List Move) : Prop :=
  ∃ earlier rest, moves = earlier ++ .call .close :: rest ∧ ∀ move ∈ rest, move.isCheck = false

theorem isLeft_take (s : Server) {move : Move} (hmove : move.isCheck = false) :
    isLeft (take s move).1 = true := by
  cases move with
  | call call =>
    cases call with
    | check language text => cases hmove
    | _ => rfl
  | _ => rfl

theorem callsOf_concat (moves : List Move) (move : Move) :
    callsOf (moves ++ [move]) = callsOf moves ++ move.call?.toList := by
  rw [callsOf, List.filterMap_append]
  cases move <;> rfl

theorem Closed.of_concat {moves : List Move} {move : Move} (h : Closed (moves ++ [move])) :
    move = .call .close ∨ Closed moves ∧ move.isCheck = false := by
  obtain ⟨earlier, rest, hsplit, hrest⟩ := h
  rcases concat_eq_append_cons hsplit with ⟨-, hmove, -⟩ | ⟨before, rfl, hmoves⟩
  · exact .inl hmove
  · obtain ⟨hbefore, hmove⟩ := List.forall_mem_append.1 hrest
    exact .inr ⟨⟨earlier, before, hmoves, hbefore⟩, hmove move (List.mem_singleton_self move)⟩

/-! ## The state behind a run -/

structure Stands (moves : List Move) (s : Server) : Prop where
  steady : Steady s
  settings_eq : s.remote.settings = settingsAfter (callsOf moves)
  closed : Closed moves → ∀ id, s.host.isAlive id = false

section

variable {s later : Server} {moves : List Move} {move : Move}

theorem steady_of_quiet (h : Steady s) (hquiet : Quiet s.host later.host)
    (hprocess : later.process = s.process)
    (hconnection : later.remote.connection = s.remote.connection) : Steady later := by
  refine ⟨h.toTracked.of_quiet hquiet hprocess, fun hrunning husable => ?_⟩
  obtain ⟨id, hid, halive⟩ := isRunning_iff.1 hrunning
  refine hquiet.settled (h.ready ?_ (hconnection ▸ husable))
  exact isRunning_iff.2 ⟨id, hprocess ▸ hid, hquiet.isAlive_of id halive⟩

theorem Stands.of_quiet (h : Stands moves s) (hquiet : Quiet s.host later.host)
    (hprocess : later.process = s.process)
    (hconnection : later.remote.connection = s.remote.connection)
    (hsettings : later.remote.settings = settingsAfter (callsOf (moves ++ [move])))
    (hmove : move ≠ .call .close) : Stands (moves ++ [move]) later := by
  refine ⟨steady_of_quiet h.steady hquiet hprocess hconnection, hsettings, fun hclosed id => ?_⟩
  obtain ⟨hclosed, -⟩ := hclosed.of_concat.resolve_left hmove
  exact Bool.eq_false_iff.2 fun halive =>
    Bool.eq_false_iff.1 (h.closed hclosed id) (hquiet.isAlive_of id halive)

theorem tracked_withRemote (h : Tracked s) (remote : Remote) : Tracked { s with remote } :=
  ⟨h.sound, h.last, h.stored⟩

theorem stopped_close (h : Tracked s) :
    Stopped { s with remote := s.remote.close } s.close.value :=
  (tracked_withRemote h s.remote.close).stop

theorem Stands.take (h : Stands moves s) (hleft : isLeft (take s move).1 = true) :
    Stands (moves ++ [move]) (take s move).2 := by
  have hsame : move.call? = none →
      s.remote.settings = settingsAfter (callsOf (moves ++ [move])) := by
    intro hcall
    rw [callsOf_concat, hcall, Option.toList_none, List.append_nil, h.settings_eq]
  have hafter : ∀ call, move.call? = some call →
      afterCall s.remote.settings call = settingsAfter (callsOf (moves ++ [move])) := by
    intro call hcall
    rw [callsOf_concat, hcall, Option.toList_some, settingsAfter_concat, h.settings_eq]
  cases move with
  | exit code => exact h.of_quiet (quiet_exit _ _ code) rfl rfl (hsame rfl) (fun h => nomatch h)
  | files tree => exact h.of_quiet (.of_eq rfl rfl rfl rfl) rfl rfl (hsame rfl) (fun h => nomatch h)
  | call call =>
    cases call with
    | allowWords language words =>
      exact h.of_quiet (.refl s.host) rfl rfl (hafter _ rfl) (fun h => nomatch h)
    | disableChecks language rules =>
      exact h.of_quiet (.refl s.host) rfl rfl (hafter _ rfl) (fun h => nomatch h)
    | check language text =>
      have hopen : ¬ Closed (moves ++ [.call (.check language text)]) := fun hclosed => by
        rcases hclosed.of_concat with hclose | ⟨-, hcheck⟩
        · cases hclose
        · cases hcheck
      rcases h.steady.check language text with hfailed | hasked
      · refine ⟨hfailed.steady ?_, ?_, fun hclosed => absurd hclosed hopen⟩
        · -- a wait without end is not left
          intro hendless
          have hends : isLeft (some (s.check language text).value.1) = true := hleft
          rw [hendless] at hends
          cases hends
        · rw [← hafter _ rfl]
          exact congrArg Remote.settings hfailed.silent.remote_eq
      · refine ⟨hasked.steady, ?_, fun hclosed => absurd hclosed hopen⟩
        rw [← hafter _ rfl]
        exact congrArg Remote.settings hasked.remote_eq
    | close =>
      have hstopped := stopped_close h.steady.toTracked
      refine ⟨⟨hstopped.tracked (tracked_withRemote h.steady.toTracked _), fun hrunning => ?_⟩, ?_,
        fun _ => hstopped.isAlive_eq⟩
      · exact absurd hrunning (Bool.eq_false_iff.1 (isRunning_eq_false hstopped.isAlive_eq))
      · rw [← hafter _ rfl]
        have hremote : s.close.value.remote = s.remote.close := hstopped.remote_eq
        exact (congrArg Remote.settings hremote :)

theorem stands_run {rest : List Move} (h : Stands moves s) (hrun : run s rest = some later) :
    Stands (moves ++ rest) later := by
  induction rest generalizing moves s with
  | nil =>
    obtain rfl : s = later := Option.some.inj hrun
    rwa [List.append_nil]
  | cons move rest ih =>
    rw [run] at hrun
    split at hrun
    next hleft =>
      rw [List.append_cons]
      exact ih (h.take hleft) hrun
    next => cases hrun

theorem connect_eq {platform : Platform} {host : String} {port : Port} {connection : Connection}
    {remote : Remote} (h : Remote.connect platform host port connection = .ok remote) :
    remote.settings = .empty ∧ remote.connection = connection := by
  unfold Remote.connect at h
  split at h
  next number _ =>
    split at h
    next =>
      cases hopen : Remote.openAt platform (Remote.address host number) connection with
      | error error => simp only [hopen] at h; cases h
      | ok =>
        simp only [hopen] at h
        obtain rfl := Except.ok.inj h
        exact ⟨rfl, rfl⟩
    next => cases h
  next => cases h

theorem setUp_eq {platform : Platform} {host : Host} {homes : Path.Homes} {location java : String}
    {port : Int} {timeout : Decimal.Binary64} {connection : Connection}
    (h : Server.setUp platform host homes location java port timeout connection = .ok s) :
    s.process = none ∧ s.host = host ∧ s.remote.settings = .empty ∧
      s.remote.connection = connection := by
  unfold Server.setUp Server.prepare at h
  cases hlocate : Server.locateJar host.files homes location with
  | error error => rw [hlocate] at h; cases h
  | ok path =>
    rw [hlocate] at h
    cases hconnect : Remote.connect platform "http://127.0.0.1" (.number port) connection with
    | error error => rw [hconnect] at h; cases h
    | ok remote =>
      rw [hconnect] at h
      obtain rfl := Except.ok.inj h
      exact ⟨rfl, rfl, connect_eq hconnect⟩

theorem stands_setUp {platform : Platform} {host : Host} (hprocesses : host.processes = [])
    (htrace : host.trace = []) {homes : Path.Homes} {location java : String} {port : Int}
    {timeout : Decimal.Binary64} {connection : Connection}
    (h : Server.setUp platform host homes location java port timeout connection = .ok s) :
    Stands [] s := by
  obtain ⟨hprocess, rfl, hsettings, -⟩ := setUp_eq h
  have hlives : lives s.host = [] := by rw [lives, hprocesses]; rfl
  have hdead : ∀ id, s.host.isAlive id = false := fun id => by rw [isAlive_eq, hlives]; rfl
  refine ⟨⟨⟨⟨?_, ?_, ?_⟩, ?_, ?_⟩, ?_⟩, hsettings, fun _ => hdead⟩
  · rw [htrace]
    exact paced_nil
  · rw [htrace, hlives]
    rfl
  · rw [htrace, hlives]
    rfl
  · intro id hid
    cases hprocess.symm.trans hid
  · intro id halive
    exact absurd halive (Bool.eq_false_iff.1 (hdead id))
  · intro hrunning
    exact absurd hrunning (Bool.eq_false_iff.1 (isRunning_eq_false hdead))

theorem quiet_take (h : Tracked s) (hmove : move.isCheck = false) :
    Quiet s.host (take s move).2.host := by
  cases move with
  | exit code => exact quiet_exit _ _ code
  | files tree => exact .of_eq rfl rfl rfl rfl
  | call call =>
    cases call with
    | allowWords language words => exact .refl s.host
    | disableChecks language rules => exact .refl s.host
    | check language text => cases hmove
    | close => exact (stopped_close h).quiet

end

/-! ## What a run shows -/

/-- A check that has sent one request, to the stored process, which was started last and had
answered a ping by then; the request and the result are those for a client behind these calls. -/
structure Sent (calls : List Call) (s : Server) (language text : String)
    (result : Except Fault (List Suggestion)) (later : Server) : Prop where
  request : ∃ request before after id,
    later.host.trace = before ++ .request request :: after ∧
    requests later.host.trace = requests s.host.trace ++ [request] ∧
    s.host.trace <+: before ∧ Answered before ∧
    later.process = some id ∧ starts before = id + 1 ∧
    Requests calls language text request
  result_eq : result = (s.remote.readReply text (s.host.replies.headD Session.noReply)).map
    (unallowed calls language text)

/-- A check that has sent nothing and failed, as the client was closed or no server was there. -/
structure Unsent (s : Server) (result : Except Fault (List Suggestion)) (later : Server) :
    Prop where
  requests_eq : requests later.host.trace = requests s.host.trace
  isError : ∃ fault, result = .error fault
  not_available : s.remote.connection.isUsable = true → ¬ Available s

section

variable {s : Server} {moves : List Move} {language text : String}

theorem Stands.sent (h : Stands moves s) (hcalm : Calm s.host)
    (husable : s.remote.connection.isUsable = true) (hok : s.ensureStarted.value.1 = .ok ()) :
    Sent (callsOf moves) s language text (s.check language text).value.1
      (s.check language text).value.2 := by
  have hasked := h.steady.asked language text husable hok
  obtain ⟨ready, id, hsilent, htracked, hsettled, hid, hlater, hrequest⟩ := hasked.sent
  have hanswered : Answered ready.host.trace :=
    hsettled.answered (hsilent.calm hcalm).noneRaised
  obtain ⟨after, hafter⟩ := hrequest.trace_prefix
  refine ⟨⟨_, ready.host.trace, after, id, ?_, ?_, hsilent.trace_prefix, hanswered, hlater, ?_,
    requests_checkRequest h.settings_eq language text⟩, ?_⟩
  · rw [← hafter, List.append_assoc]
    rfl
  · rw [hrequest.requests_eq, hsilent.requests_eq]
  · rw [htracked.sound.starts_eq, htracked.last id hid]
  · rw [hasked.result_eq, h.settings_eq]
    exact congrArg (fun left => Except.map left _)
      (funext fun found => filter_settingsAfter _ language text found)

theorem Stands.check (h : Stands moves s) (hcalm : Calm s.host) (language text : String) :
    Unsent s (s.check language text).value.1 (s.check language text).value.2 ∨
      Sent (callsOf moves) s language text (s.check language text).value.1
        (s.check language text).value.2 := by
  by_cases hready : s.remote.connection.isUsable = true ∧ s.ensureStarted.value.1 = .ok ()
  · exact .inr (h.sent hcalm hready.1 hready.2)
  · have hno : s.remote.connection.isUsable = true → s.ensureStarted.value.1 ≠ .ok () :=
      fun husable hok => hready ⟨husable, hok⟩
    obtain ⟨hsilent, -, fault, hfault, -⟩ := h.steady.failed language text hno
    exact .inl ⟨hsilent.requests_eq, ⟨fault, hfault⟩, fun husable havailable =>
      hno husable (havailable.ensureStarted husable)⟩

end

/-- A machine with a jar, on which the first start fails and the second server answers at once. -/
def faltering : Host :=
  ⟨⟨[(Path.ofString "lt.jar", ⟨#[]⟩)], []⟩, [.refused "Permission denied"], [true].map .heard, [],
    [], [], 0, [], []⟩

def lenient : Platform := ⟨fun _ => .ok (), 1000⟩

def unstarted : Server :=
  ⟨⟨"http://127.0.0.1:8081", .empty, .owned true, 1000⟩, Path.ofString "lt.jar", "java", 8081,
    .finite false 60 0, none, faltering⟩

/-- The server behind a start that failed, with a rule disabled before. -/
def retried : Server :=
  ((unstarted.disableChecks "en-US" ["EN_QUOTES"]).check "en-US" "One.").value.2

end ProseTrace.Proofs.Checker.ServerRuns
