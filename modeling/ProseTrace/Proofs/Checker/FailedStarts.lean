import ProseTrace.Proofs.Checker.ServerRuns

/-!
# Starts that fail

A start fails when the new process exits, or does not answer in time.  The check that asked for it
then sends nothing, and leaves no process behind: the next check starts a new one, if the jar is
still there.  Where a ping ends with an error of the client, as on a client that was closed, the
process is left behind, and while it is alive no check starts another.
-/

namespace ProseTrace.Proofs.Checker.FailedStarts

open ProseTrace.Document ProseTrace.Finding ProseTrace.Checker
open ProseTrace.Proofs.Checker.HostWatch ProseTrace.Proofs.Checker.ServerWatch
open ProseTrace.Proofs.Checker.ServerRuns

/-! ## Nothing is left -/

section

variable {s later : Server} {moves rest : List Move} {language text : String} {fault : Fault}

theorem value_check_of_error (h : s.ensureStarted.value.1 = .error fault) :
    (s.check language text).value = (.error fault, s.ensureStarted.value.2) := by
  rw [value_check]
  generalize s.ensureStarted.value = prepared at h
  obtain ⟨outcome, ready⟩ := prepared
  obtain rfl : outcome = .error fault := h
  rfl

theorem failed_of_unsent (h : Steady s) {result : Except Fault (List Suggestion)}
    (hcheck : (s.check language text).value = (result, later))
    (hunsent : requests later.host.trace = requests s.host.trace) : Failed s result later := by
  have hcases := h.check language text
  rw [hcheck] at hcases
  rcases hcases with hfailed | hasked
  · exact hfailed
  · obtain ⟨ready, _, hsilent, -, -, -, -, hrequest⟩ := hasked.sent
    have hsent : requests later.host.trace =
        requests s.host.trace ++ [s.remote.checkRequest language text] := by
      rw [hrequest.requests_eq, hsilent.requests_eq]
    exact absurd (hunsent.symm.trans hsent) (by simp)

theorem isLeft_error (h : fault ≠ .endlessWait) : isLeft (some (.error fault)) = true := by
  unfold isLeft
  split
  next heq => cases heq; exact absurd rfl h
  next => rfl

theorem quiet_run (h : Stands moves s) (hrest : ∀ move ∈ rest, move.isCheck = false)
    (hrun : run s rest = some later) : Quiet s.host later.host := by
  induction rest generalizing moves s with
  | nil =>
    obtain rfl : s = later := Option.some.inj hrun
    exact .refl s.host
  | cons move rest ih =>
    obtain ⟨hmove, hrest⟩ := List.forall_mem_cons.1 hrest
    have hleft := isLeft_take s hmove
    rw [run, if_pos hleft] at hrun
    exact (quiet_take h.steady.toTracked hmove).trans (ih (h.take hleft) hrest hrun)

end

/-! ## The next check -/

/-- What comes of a check whose server does not run: a new process is started, unless the machine
refuses to, or the jar is not there any more. -/
inductive Retried (s : Server) : Except Fault (List Suggestion) → Server → Prop where
  | started {result : Except Fault (List Suggestion)} {later : Server}
      (hjar : s.host.files.isFile s.classpath = .ok true)
      (htrace : s.host.trace ++ [.launch s.command true] <+: later.host.trace) :
      Retried s result later
  | refused {later : Server} (reason : String)
      (hjar : s.host.files.isFile s.classpath = .ok true)
      (hlaunch : s.host.launches.headD Host.plainLaunch = .refused reason)
      (htrace : later.host.trace = s.host.trace ++ [.launch s.command false]) :
      Retried s (.error (.backend (.cannotStart s.java reason))) later
  | missing (hjar : s.host.files.isFile s.classpath = .ok false) :
      Retried s (.error (.backend (.jarNotFound s.classpath.toText))) s
  | overlong (error : FileTree.Overlong)
      (hjar : s.host.files.isFile s.classpath = .error error) :
      Retried s (.error (.overlong error)) s

section

variable {s : Server}

theorem trace_prefix_sendCheck (s : Server) (language text : String) :
    s.host.trace <+: (s.sendCheck language text).value.2.host.trace := by
  cases husable : s.remote.connection.isUsable with
  | true =>
    have hpassed := quiet_pass (Host.record { s.host with replies := s.host.replies.tail }
      (.request (s.remote.checkRequest language text)))
    rw [value_sendCheck husable]
    exact (List.prefix_append _ _).trans hpassed.trace_prefix
  | false => simp only [value_sendCheck_of_closed husable, List.prefix_rfl]

theorem starts_sendCheck (s : Server) (language text : String) :
    starts (s.sendCheck language text).value.2.host.trace = starts s.host.trace := by
  cases husable : s.remote.connection.isUsable with
  | true =>
    rw [value_sendCheck husable]
    exact (countP_pass (fun _ => rfl) _).trans countP_concat
  | false => rw [value_sendCheck_of_closed husable]

theorem trace_prefix_check (s : Server) (language text : String) :
    s.ensureStarted.value.2.host.trace <+: (s.check language text).value.2.host.trace := by
  rw [value_check]
  generalize s.ensureStarted.value = prepared
  obtain ⟨outcome, ready⟩ := prepared
  cases outcome with
  | error fault => exact List.prefix_rfl
  | ok => exact trace_prefix_sendCheck ready language text

/-- A start is refused, and nothing else happens, or a new process runs first of all. -/
theorem start_cases (h : Tracked s) (hrunning : s.isRunning = false) :
    (∃ reason, s.host.launches.headD Host.plainLaunch = .refused reason ∧
      s.start.value.1 = .error (.backend (.cannotStart s.java reason)) ∧
      s.start.value.2.host.trace = s.host.trace ++ [.launch s.command false]) ∨
    s.host.trace ++ [.launch s.command true] <+: s.start.value.2.host.trace := by
  have hlaunch := launch_cases s.host s.command
  unfold Server.start
  generalize s.host.launch s.command = launched at hlaunch
  obtain ⟨result, host⟩ := launched
  rcases hlaunch with ⟨reason, hscript, rfl, htrace, -⟩ | ⟨rfl, htrace, -, hstarted⟩
  · exact .inl ⟨reason, hscript, rfl, htrace⟩
  · have hlater := prepared_awaitReady (.after host.readClock.1 s.timeout) _
      (h.launched hrunning hstarted)
    exact .inr (htrace.trans hlater.silent.trace_prefix)

theorem ensureStarted_of_not_isRunning (hrunning : s.isRunning = false) :
    s.ensureStarted = match s.host.files.isFile s.classpath with
      | .ok true => s.start
      | .ok false => pure (.error (.backend (.jarNotFound s.classpath.toText)), s)
      | .error error => pure (.error (.overlong error), s) := by
  rw [Server.ensureStarted, hrunning]
  rfl

theorem retried_check (h : Tracked s) (hrunning : s.isRunning = false) (language text : String) :
    Retried s (s.check language text).value.1 (s.check language text).value.2 := by
  have hensure := ensureStarted_of_not_isRunning hrunning
  cases hjar : s.host.files.isFile s.classpath with
  | error error =>
    rw [hjar] at hensure
    rw [value_check, hensure]
    exact .overlong error hjar
  | ok isThere =>
    rw [hjar] at hensure
    cases isThere with
    | false =>
      rw [value_check, hensure]
      exact .missing hjar
    | true =>
      replace hensure : s.ensureStarted = s.start := hensure
      have hlater := trace_prefix_check s language text
      rw [hensure] at hlater
      rcases start_cases h hrunning with ⟨reason, hlaunch, hresult, htrace⟩ | htrace
      · rw [value_check_of_error (hensure ▸ hresult), hensure]
        exact .refused reason hjar hlaunch htrace
      · exact .started hjar (htrace.trans hlater)

end

/-! ## Servers that run -/

section

variable {s : Server}

theorem check_of_isRunning (hrunning : s.isRunning = true) (language text : String) :
    (s.check language text).value = (s.sendCheck language text).value := by
  have hensure : s.ensureStarted.value = (.ok (), s) := by
    rw [Server.ensureStarted, if_pos hrunning]
    rfl
  rw [value_check, hensure]

theorem awaitReady_of_error {deadline : Deadline} {fault : Fault} {pinged : Server}
    (hrunning : s.isRunning = true) (hping : s.ping = (.error fault, pinged)) :
    (s.awaitReady deadline).value = (.error fault, pinged) := by
  rw [Server.awaitReady, dif_pos hrunning]
  split
  next h =>
    obtain ⟨hfault, rfl⟩ := Prod.mk.inj (hping.symm.trans h)
    obtain rfl := Except.error.inj hfault
    rfl
  next h => cases hping.symm.trans h
  next h => cases hping.symm.trans h

end

/-! ## What is left -/

/-- What a check has left that failed without having sent its request: nothing alive, unless the
fault has left a ping.  Then a process is stored that nothing has stopped, and for a closed client
it runs. -/
structure Leaves (s : Server) (fault : Fault) (failed : Server) : Prop where
  stopped : ¬ LeavesPing fault → ∀ id, failed.host.isAlive id = false
  kept : LeavesPing fault →
    failed.process.isSome = true ∧ stops failed.host.trace = stops s.host.trace
  closed : fault = .clientClosed →
    s.remote.connection.isUsable = false ∧ failed.isRunning = true

/-- What comes of the next check: a new start if nothing runs, and none if a process was left
behind, of which a closed client asks nothing either. -/
structure Follows (s : Server) (result : Except Fault (List Suggestion)) (later : Server) :
    Prop where
  retried : s.isRunning = false → Retried s result later
  kept : s.isRunning = true → starts later.host.trace = starts s.host.trace
  closed : s.isRunning = true → s.remote.connection.isUsable = false →
    result = .error .clientClosed ∧ later = s

section

variable {s failed : Server} {fault : Fault}

theorem leaves_of_failed (h : Failed s (.error fault) failed) (hleft : fault ≠ .endlessWait) :
    Leaves s fault failed := by
  obtain ⟨-, htracked, _, heq, hafter⟩ := h
  obtain rfl := Except.error.inj heq
  cases hafter with
  | stopped hfault hdead =>
    refine ⟨fun _ => htracked.isAlive_eq_false hdead, fun hraised => absurd hraised hfault, ?_⟩
    rintro rfl
    exact absurd trivial hfault
  | closed hclosed hrunning hstops =>
    obtain ⟨id, hid, -⟩ := isRunning_iff.1 hrunning
    exact ⟨fun hfault => absurd trivial hfault, fun _ => ⟨by rw [hid]; rfl, hstops⟩,
      fun _ => ⟨hclosed, hrunning⟩⟩
  | raised reason _ hstored hstops =>
    exact ⟨fun hfault => absurd trivial hfault, fun _ => ⟨hstored, hstops⟩, nofun⟩
  | endless => exact absurd rfl hleft

theorem follows_check (h : Tracked s) (language text : String) :
    Follows s (s.check language text).value.1 (s.check language text).value.2 := by
  refine ⟨fun hdead => retried_check h hdead language text, fun hrunning => ?_,
    fun hrunning hclosed => ?_⟩
  · rw [check_of_isRunning hrunning, starts_sendCheck]
  · rw [check_of_isRunning hrunning, value_sendCheck_of_closed hclosed]
    exact ⟨rfl, rfl⟩

end

/-! ## Behind a run -/

/-- Behind any run, closes included, a check fails before it has sent its request, for instance as
the new process has exited or has not answered in time.  Then no process is alive, unless a ping has
ended with an error of the client: that leaves the process behind.  Whatever happens until the next
check, that check starts a new process if none runs, unless the machine refuses to or the jar is not
there any more; a process that was left behind and runs keeps it from starting one. -/
theorem next_check_after_failed_start {platform : Platform} {files : FileTree}
    {launches : List Launch} {pings : List Pong} {replies : List Reply} {lapses : List Rat}
    {endings : List (Option Int)} {clock : Rat} {homes : Path.Homes} {location java : String}
    {port : Int} {timeout : Decimal.Binary64} {connection : Connection} {start s failed : Server}
    {moves : List Move} {language text : String} {fault : Fault}
    (hsetUp : Server.setUp platform ⟨files, launches, pings, replies, lapses, endings, clock, [],
      []⟩ homes location java port timeout connection = .ok start)
    (hrun : run start moves = some s)
    (hcheck : take s (.call (.check language text)) = (some (.error fault), failed))
    (hleft : fault ≠ .endlessWait)
    (hunsent : requests failed.host.trace = requests s.host.trace) :
    Leaves s fault failed ∧
      ∀ rest later, (∀ move ∈ rest, move.isCheck = false) → run failed rest = some later →
        (failed.isRunning = false → later.isRunning = false) ∧
        ∀ language' text', ∃ result,
          (take later (.call (.check language' text'))).1 = some result ∧
          Follows later result (take later (.call (.check language' text'))).2 := by
  have hstands : Stands moves s := stands_run (stands_setUp rfl rfl hsetUp) hrun
  have hresult : (s.check language text).value.1 = .error fault :=
    Option.some.inj (congrArg Prod.fst hcheck)
  have hvalue : (s.check language text).value = (.error fault, failed) :=
    Prod.ext hresult (congrArg Prod.snd hcheck :)
  have hfailed : Failed s (.error fault) failed :=
    failed_of_unsent hstands.steady hvalue hunsent
  have hbehind : Stands (moves ++ [.call (.check language text)]) failed := by
    have hnext : Stands _ (take s (.call (.check language text))).2 :=
      hstands.take (by rw [hcheck]; exact isLeft_error hleft)
    rwa [hcheck] at hnext
  refine ⟨leaves_of_failed hfailed hleft, fun rest later hrest hlater => ⟨fun hdead => ?_, ?_⟩⟩
  · have hquiet := quiet_run hbehind hrest hlater
    exact isRunning_eq_false fun id => Bool.eq_false_iff.2 fun halive =>
      Bool.eq_false_iff.1 (hfailed.tracked.isAlive_eq_false hdead id) (hquiet.isAlive_of id halive)
  · intro language' text'
    exact ⟨_, rfl, follows_check (stands_run hbehind hlater).steady.toTracked language' text'⟩

/-- A machine with a jar on which programs start, and on which pings turn out as the script says. -/
def jarHost (pings : List Pong) : Host := { faltering with launches := [], pings }

def jarServer (pings : List Pong) : Server := { unstarted with host := jarHost pings }

def garbledReason : String := "Error -3 while decompressing data: incorrect header check"

def launched (s : Server) : Server :=
  (Server.readClock { s with process := some 0, host := (s.host.launch s.command).2 }).2

def leftBehind : Server := (launched (jarServer [.raised garbledReason])).ping.2

/-- A process whose answer cannot be decoded is left behind, and the next check starts none. -/
theorem next_check_after_garbled_ping :
    Server.setUp lenient (jarHost [.raised garbledReason]) [] "lt.jar" "java" 8081
      (.finite false 60 0) (.owned true) = .ok (jarServer [.raised garbledReason]) ∧
    take (jarServer [.raised garbledReason]) (.call (.check "en-US" "Text.")) =
      (some (.error (.pingRaised garbledReason)), leftBehind) ∧
    leftBehind.isRunning = true ∧ stops leftBehind.host.trace = 0 ∧
    starts (take leftBehind (.call (.check "en-US" "Text."))).2.host.trace = 1 := by
  have hsetUp : Server.setUp lenient (jarHost [.raised garbledReason]) [] "lt.jar" "java" 8081
      (.finite false 60 0) (.owned true) = .ok (jarServer [.raised garbledReason]) := rfl
  have hrun : run (jarServer [.raised garbledReason]) [] =
      some (jarServer [.raised garbledReason]) := rfl
  have hensure : (jarServer [.raised garbledReason]).ensureStarted.value =
      (.error (.pingRaised garbledReason), leftBehind) :=
    awaitReady_of_error rfl rfl
  have hcheck : take (jarServer [.raised garbledReason]) (.call (.check "en-US" "Text.")) =
      (some (.error (.pingRaised garbledReason)), leftBehind) := by
    have hvalue : ((jarServer [.raised garbledReason]).check "en-US" "Text.").value = _ :=
      value_check_of_error (congrArg Prod.fst hensure)
    rw [hensure] at hvalue
    exact congrArg (Prod.map some id) hvalue
  obtain ⟨hleaves, hnext⟩ := next_check_after_failed_start hsetUp hrun hcheck nofun rfl
  obtain ⟨-, hfollows⟩ := hnext [] leftBehind nofun rfl
  obtain ⟨_, -, hfollows⟩ := hfollows "en-US" "Text."
  exact ⟨hsetUp, hcheck, rfl, (hleaves.kept trivial).2, hfollows.kept rfl⟩

/-- A client that was closed starts a process for the next check, and leaves it alive; the check
behind that one starts none. -/
theorem no_start_after_failed_start :
    Server.setUp lenient (jarHost []) [] "lt.jar" "java" 8081 (.finite false 60 0) (.owned true) =
      .ok (jarServer []) ∧
    ∃ closed, take (jarServer []) (.call .close) = (none, closed) ∧ starts closed.host.trace = 0 ∧
      ∃ failed, take closed (.call (.check "en-US" "Text.")) =
          (some (.error .clientClosed), failed) ∧
        failed.isRunning = true ∧ starts failed.host.trace = 1 ∧ requests failed.host.trace = [] ∧
        take failed (.call (.check "en-US" "Text.")) =
          (some (.error .clientClosed), failed) := by
  have hensure : (jarServer []).close.value.ensureStarted.value =
      (.error .clientClosed, launched (jarServer []).close.value) :=
    awaitReady_of_error rfl (ping_of_closed rfl)
  have hcheck : ((jarServer []).close.value.check "en-US" "Text.").value = _ :=
    value_check_of_error (congrArg Prod.fst hensure)
  have hagain : ((launched (jarServer []).close.value).check "en-US" "Text.").value =
      (.error .clientClosed, launched (jarServer []).close.value) := by
    rw [check_of_isRunning rfl, value_sendCheck_of_closed rfl]
  rw [hensure] at hcheck
  exact ⟨rfl, _, rfl, rfl, _, congrArg (Prod.map some id) hcheck, rfl, rfl, rfl,
    congrArg (Prod.map some id) hagain⟩

end ProseTrace.Proofs.Checker.FailedStarts
