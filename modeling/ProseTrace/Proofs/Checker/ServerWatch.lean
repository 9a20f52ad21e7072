import ProseTrace.Checker.Server
import ProseTrace.Proofs.Checker.HostWatch
import ProseTrace.Proofs.Checker.SettingRuns

/-!
# A server and its process

A server knows the one process that may be alive on its host.  Starting, waiting and stopping keep
this so, however the host behaves, and a check is sent only to a process that is not waited for any
more.
-/

namespace ProseTrace.Proofs.Checker.ServerWatch

open ProseTrace.Finding ProseTrace.Checker
open ProseTrace.Proofs.Checker.HostWatch ProseTrace.Proofs.Checker.SettingRuns

/-- The stored process was started last, and no other is alive. -/
structure Tracked (s : Server) : Prop where
  sound : Sound s.host
  last : ∀ id, s.process = some id → id + 1 = (lives s.host).length
  stored : ∀ id, s.host.isAlive id = true → s.process = some id

/-- A tracked server whose process, while it is alive, is not waited for by a usable client. -/
structure Steady (s : Server) : Prop extends Tracked s where
  ready : s.isRunning = true → s.remote.connection.isUsable = true → Settled s.host.trace

/-- A server at a later time, with the same client and no request between. -/
structure Silent (s later : Server) : Prop where
  trace_prefix : s.host.trace <+: later.host.trace
  requests_eq : requests later.host.trace = requests s.host.trace
  replies_eq : later.host.replies = s.host.replies
  calm : Calm s.host → Calm later.host
  remote_eq : later.remote = s.remote

/-- The fault is an error of the client that leaves a ping. -/
def LeavesPing : Fault → Prop
  | .clientClosed => True
  | .pingRaised _ => True
  | _ => False

/-- What a fault leaves behind: a server that does not run, or, where the fault has left a ping, a
process that nothing has stopped.  A wait without end is never left. -/
inductive Aftermath (s : Server) : Fault → Server → Prop where
  | stopped {fault : Fault} {later : Server} (hfault : ¬ LeavesPing fault)
      (hdead : later.isRunning = false) : Aftermath s fault later
  | closed {later : Server} (hclosed : s.remote.connection.isUsable = false)
      (hrunning : later.isRunning = true) (hstops : stops later.host.trace = stops s.host.trace) :
      Aftermath s .clientClosed later
  | raised {later : Server} (reason : String) (hsettled : Settled later.host.trace)
      (hstored : later.process.isSome = true)
      (hstops : stops later.host.trace = stops s.host.trace) :
      Aftermath s (.pingRaised reason) later
  | endless {later : Server} : Aftermath s .endlessWait later

/-- What comes of getting a server ready: a process that is not waited for any more, a process that
runs for a closed client, or the aftermath of a fault. -/
structure Prepared (s : Server) (outcome : Except Fault Unit) (later : Server) : Prop where
  silent : Silent s later
  tracked : Tracked later
  settled : outcome = .ok () → s.remote.connection.isUsable = true →
    Settled later.host.trace ∧ ∃ id, later.process = some id
  closed : outcome = .ok () → s.remote.connection.isUsable = false →
    later.isRunning = true ∧ stops later.host.trace = stops s.host.trace
  failed : ∀ fault, outcome = .error fault → Aftermath s fault later

section

variable {s later last : Server}

theorem Silent.trans (hl : Silent s later) (hr : Silent later last) : Silent s last where
  trace_prefix := hl.trace_prefix.trans hr.trace_prefix
  requests_eq := hr.requests_eq.trans hl.requests_eq
  replies_eq := hr.replies_eq.trans hl.replies_eq
  calm hcalm := hr.calm (hl.calm hcalm)
  remote_eq := hr.remote_eq.trans hl.remote_eq

theorem Silent.of_quiet (h : Quiet s.host later.host) (hremote : later.remote = s.remote) :
    Silent s later :=
  ⟨h.trace_prefix, h.requests_eq, h.replies_eq, h.calm, hremote⟩

theorem Silent.of_started (h : Started s.host later.host) (hremote : later.remote = s.remote) :
    Silent s later :=
  ⟨h.trace_prefix, h.requests_eq, h.replies_eq, h.calm, hremote⟩

theorem Silent.refl (s : Server) : Silent s s := .of_quiet (.refl s.host) rfl

theorem Aftermath.of_silent {fault : Fault} (hsilent : Silent s later)
    (hstops : stops later.host.trace = stops s.host.trace) (h : Aftermath later fault last) :
    Aftermath s fault last := by
  cases h with
  | stopped hfault hdead => exact .stopped hfault hdead
  | closed hclosed hrunning hlast =>
    exact .closed (hsilent.remote_eq ▸ hclosed) hrunning (hlast.trans hstops)
  | raised reason hsettled hstored hlast =>
    exact .raised reason hsettled hstored (hlast.trans hstops)
  | endless => exact .endless

theorem Prepared.of_silent {outcome : Except Fault Unit} (hsilent : Silent s later)
    (hstops : stops later.host.trace = stops s.host.trace) (h : Prepared later outcome last) :
    Prepared s outcome last where
  silent := hsilent.trans h.silent
  tracked := h.tracked
  settled := by rw [← hsilent.remote_eq]; exact h.settled
  closed := by rw [← hsilent.remote_eq, ← hstops]; exact h.closed
  failed fault hfault := (h.failed fault hfault).of_silent hsilent hstops

theorem isRunning_iff :
    s.isRunning = true ↔ ∃ id, s.process = some id ∧ s.host.isAlive id = true := by
  rw [Server.isRunning]
  cases s.process <;> simp

theorem isRunning_eq_false (h : ∀ id, s.host.isAlive id = false) : s.isRunning = false := by
  rw [Server.isRunning]
  cases s.process with
  | none => rfl
  | some id => exact h id

theorem Tracked.isAlive_eq_false (h : Tracked s) (hrunning : s.isRunning = false) (id : Nat) :
    s.host.isAlive id = false := by
  refine Bool.eq_false_iff.2 fun halive => ?_
  rw [isRunning_iff.2 ⟨id, h.stored id halive, halive⟩] at hrunning
  cases hrunning

theorem Tracked.of_quiet (h : Tracked s) (hquiet : Quiet s.host later.host)
    (hprocess : later.process = s.process) : Tracked later where
  sound := hquiet.sound h.sound
  last id hid := by rw [hquiet.length_eq]; exact h.last id (hprocess ▸ hid)
  stored id halive := hprocess.trans (h.stored id (hquiet.isAlive_of id halive))

/-! ## Stopping -/

theorem quiet_stopProcess (host : Host) (id : Nat) (port : Int) :
    Quiet host (Server.stopProcess host id port).value ∧
      (Server.stopProcess host id port).value.isAlive id = false := by
  have hwaited : Quiet host ((host.terminate id).wait id).2 :=
    (quiet_terminate host id).trans (quiet_wait _ id)
  unfold Server.stopProcess
  split
  next halive =>
    dsimp only
    split
    next hended => exact ⟨hwaited, by simpa [Host.wait] using hended⟩
    next => exact ⟨hwaited.trans (quiet_kill _ id), isAlive_exit_self _ id _⟩
  next hdead => exact ⟨.refl host, Bool.eq_false_iff.2 hdead⟩

/-- A stopped server has forgotten its process, and nothing is alive. -/
structure Stopped (s later : Server) : Prop where
  quiet : Quiet s.host later.host
  remote_eq : later.remote = s.remote
  process_eq : later.process = none
  isAlive_eq : ∀ id, later.host.isAlive id = false

theorem Tracked.stop (h : Tracked s) : Stopped s s.stop.value := by
  unfold Server.stop
  cases hprocess : s.process with
  | none =>
    refine ⟨.refl _, rfl, hprocess, fun id => Bool.eq_false_iff.2 fun halive => ?_⟩
    cases hprocess.symm.trans (h.stored id halive)
  | some id =>
    obtain ⟨hquiet, hdead⟩ := quiet_stopProcess s.host id s.port
    refine ⟨hquiet, rfl, rfl, fun other => Bool.eq_false_iff.2 fun halive => ?_⟩
    have hother : s.process = some other := h.stored other (hquiet.isAlive_of other halive)
    obtain rfl : id = other := Option.some.inj (hprocess.symm.trans hother)
    exact Bool.eq_false_iff.1 hdead halive

theorem Stopped.tracked (h : Stopped s later) (hs : Tracked s) : Tracked later where
  sound := h.quiet.sound hs.sound
  last id hid := by rw [h.process_eq] at hid; cases hid
  stored id halive := by rw [h.isAlive_eq id] at halive; cases halive

/-! ## Getting ready -/

theorem ping_of_closed (h : s.remote.connection.isUsable = false) :
    s.ping = (.error .clientClosed, s) := by
  rw [Server.ping, h]
  rfl

theorem fst_ping_of_closed (h : s.remote.connection.isUsable = false) :
    s.ping.1 = .error .clientClosed :=
  congrArg Prod.fst (ping_of_closed h)

theorem Prepared.of_error {fault : Fault} (hsilent : Silent s later) (htracked : Tracked later)
    (hfailed : Aftermath s fault later) : Prepared s (.error fault) later where
  silent := hsilent
  tracked := htracked
  settled hok := nomatch hok
  closed hok := nomatch hok
  failed _ hfault := by obtain rfl := Except.error.inj hfault; exact hfailed

theorem ping_cases (s : Server) :
    (s.remote.connection.isUsable = true ∧
      s.ping = ((s.host.ping (s.process.getD 0)).1.result,
        { s with host := (s.host.ping (s.process.getD 0)).2 })) ∨
    s.remote.connection.isUsable = false ∧ s.ping = (.error .clientClosed, s) := by
  unfold Server.ping
  cases s.remote.connection.isUsable with
  | true => exact .inl ⟨rfl, rfl⟩
  | false => exact .inr ⟨rfl, rfl⟩

/-- A ping fails on a closed client, or with the error that leaves it. -/
theorem ping_error {fault : Fault} (h : s.ping = (.error fault, later)) :
    (s.remote.connection.isUsable = false ∧ fault = .clientClosed ∧ later = s) ∨
      s.remote.connection.isUsable = true ∧ ∃ reason, fault = .pingRaised reason := by
  rcases ping_cases s with ⟨husable, hcase⟩ | ⟨hclosed, hcase⟩
  · obtain ⟨hresult, -⟩ := Prod.mk.inj (hcase.symm.trans h)
    refine .inr ⟨husable, ?_⟩
    cases hpong : (s.host.ping (s.process.getD 0)).1 with
    | heard answered => rw [hpong] at hresult; cases hresult
    | raised reason => rw [hpong] at hresult; exact ⟨reason, (Except.error.inj hresult).symm⟩
  · obtain ⟨hfault, hsame⟩ := Prod.mk.inj (hcase.symm.trans h)
    exact .inl ⟨hclosed, (Except.error.inj hfault).symm, hsame.symm⟩

/-- A tracked server behind a ping, and what came of it. -/
structure Pinged (s : Server) (result : Except Fault Bool) (pinged : Server) : Prop where
  quiet : Quiet s.host pinged.host
  remote_eq : pinged.remote = s.remote
  process_eq : pinged.process = s.process
  settled : result ≠ .ok false → s.remote.connection.isUsable = true → Settled pinged.host.trace
  stops_eq : stops pinged.host.trace = stops s.host.trace

theorem Tracked.pinged {result : Except Fault Bool} (h : Tracked s) (hrunning : s.isRunning = true)
    (hping : s.ping = (result, later)) : Pinged s result later := by
  obtain ⟨id, hid, -⟩ := isRunning_iff.1 hrunning
  have hlast := h.last id hid
  rcases ping_cases s with ⟨-, hcase⟩ | ⟨hclosed, hcase⟩
  · obtain ⟨hresult, rfl⟩ := Prod.mk.inj (hcase.symm.trans hping)
    refine ⟨quiet_ping _ _, rfl, rfl, fun hno _ => ?_, countP_ping (fun _ => rfl) _ _⟩
    refine settled_ping h.sound (by omega) fun hpong => hno ?_
    rw [← hresult, hpong]
    rfl
  · obtain ⟨-, rfl⟩ := Prod.mk.inj (hcase.symm.trans hping)
    exact ⟨.refl _, rfl, rfl, fun _ husable => absurd husable (by rw [hclosed]; decide), rfl⟩

/-- A ping that fails leaves the process as it was, to a closed client or behind an error. -/
theorem Pinged.aftermath {fault : Fault} (h : Pinged s (.error fault) later)
    (hrunning : s.isRunning = true) (hping : s.ping = (.error fault, later)) :
    Aftermath s fault later := by
  rcases ping_error hping with ⟨hclosed, rfl, rfl⟩ | ⟨husable, reason, rfl⟩
  · exact .closed hclosed hrunning rfl
  · obtain ⟨id, hid, -⟩ := isRunning_iff.1 hrunning
    exact .raised reason (h.settled nofun husable) (by rw [h.process_eq, hid]; rfl) h.stops_eq

theorem prepared_awaitReady (deadline : Deadline) (s : Server) (h : Tracked s) :
    Prepared s (s.awaitReady deadline).value.1 (s.awaitReady deadline).value.2 := by
  fun_induction Server.awaitReady deadline s with
  | case1 s hrunning fault pinged hping =>
    have hpinged := h.pinged hrunning hping
    exact .of_error (.of_quiet hpinged.quiet hpinged.remote_eq)
      (h.of_quiet hpinged.quiet hpinged.process_eq) (hpinged.aftermath hrunning hping)
  | case2 s hrunning pinged hping =>
    have hpinged := h.pinged hrunning hping
    obtain ⟨id, hid, -⟩ := isRunning_iff.1 hrunning
    refine ⟨.of_quiet hpinged.quiet hpinged.remote_eq, h.of_quiet hpinged.quiet hpinged.process_eq,
      fun _ husable => ⟨hpinged.settled nofun husable, id, hpinged.process_eq.trans hid⟩,
      fun _ hclosed => ?_, fun _ hok => nomatch hok⟩
    cases (fst_ping_of_closed hclosed).symm.trans (congrArg Prod.fst hping)
  | case3 s hrunning pinged hping late hbefore =>
    have hpinged := h.pinged hrunning hping
    have hquiet : Quiet s.host late.host := hpinged.quiet.trans (quiet_readClock _)
    have hlate : Tracked late := h.of_quiet hquiet hpinged.process_eq
    have hstop := hlate.stop
    exact .of_error (.of_quiet (hquiet.trans hstop.quiet) (hstop.remote_eq.trans hpinged.remote_eq))
      (hstop.tracked hlate) (.stopped id (isRunning_eq_false hstop.isAlive_eq))
  | case4 s hrunning pinged hping late hbefore hhope =>
    have hpinged := h.pinged hrunning hping
    have hquiet : Quiet s.host late.host := hpinged.quiet.trans (quiet_readClock _)
    exact .of_error (.of_quiet hquiet hpinged.remote_eq) (h.of_quiet hquiet hpinged.process_eq)
      .endless
  | case5 s hrunning pinged hping late hbefore hhope _ ih =>
    -- a round without an answer starts nothing, so the rest is a wait of a tracked server again
    have hpinged := h.pinged hrunning hping
    have hquiet : Quiet s.host late.sleep.host :=
      (hpinged.quiet.trans (quiet_readClock _)).trans (quiet_sleep _)
    have hstops : stops late.sleep.host.trace = stops s.host.trace :=
      (countP_sleep (fun _ => rfl) _).trans hpinged.stops_eq
    exact (ih (h.of_quiet hquiet hpinged.process_eq)).of_silent
      (.of_quiet hquiet hpinged.remote_eq) hstops
  | case6 s hrunning =>
    exact .of_error (.refl s) h (.stopped id (Bool.eq_false_iff.2 hrunning))

theorem Tracked.launched {host : Host} (h : Tracked s) (hrunning : s.isRunning = false)
    (hstarted : Started s.host host) :
    Tracked (Server.readClock { s with host, process := some (lives s.host).length }).2 := by
  have hdead : ∀ id, s.host.isAlive id = false := h.isAlive_eq_false hrunning
  have hclock : Started s.host host.readClock.2 := hstarted.trans (quiet_readClock host)
  refine ⟨hclock.sound hdead h.sound, fun id hid => ?_, fun id halive => ?_⟩
  · obtain rfl := Option.some.inj hid
    exact hclock.length_eq.symm
  · rcases hclock.isAlive_of id halive with rfl | halive
    · rfl
    · exact absurd halive (Bool.eq_false_iff.1 (hdead id))

theorem prepared_start (h : Tracked s) (hrunning : s.isRunning = false) :
    Prepared s s.start.value.1 s.start.value.2 := by
  have hdead : ∀ id, s.host.isAlive id = false := h.isAlive_eq_false hrunning
  have hlaunch := launch_cases s.host s.command
  unfold Server.start
  generalize s.host.launch s.command = launched at hlaunch
  obtain ⟨result, host⟩ := launched
  rcases hlaunch with ⟨reason, -, rfl, -, hquiet⟩ | ⟨rfl, -, hstops, hstarted⟩
  · have hsame : Tracked { s with host } := h.of_quiet hquiet rfl
    refine .of_error (.of_quiet hquiet rfl) hsame (.stopped id ?_)
    refine isRunning_eq_false fun id => Bool.eq_false_iff.2 fun halive => ?_
    exact Bool.eq_false_iff.1 (hdead id) (hquiet.isAlive_of id halive)
  · have hsilent : Silent s (Server.readClock
        { s with host, process := some (lives s.host).length }).2 :=
      .of_started (hstarted.trans (quiet_readClock host)) rfl
    exact (prepared_awaitReady _ _ (h.launched hrunning hstarted)).of_silent hsilent hstops

theorem Steady.prepared (h : Steady s) :
    Prepared s s.ensureStarted.value.1 s.ensureStarted.value.2 := by
  unfold Server.ensureStarted
  split
  next hrunning =>
    obtain ⟨id, hid, -⟩ := isRunning_iff.1 hrunning
    exact ⟨.refl s, h.toTracked, fun _ husable => ⟨h.ready hrunning husable, id, hid⟩,
      fun _ _ => ⟨hrunning, rfl⟩, fun _ hok => nomatch hok⟩
  next hrunning =>
    have hdead : s.isRunning = false := Bool.eq_false_iff.2 hrunning
    split
    · exact prepared_start h.toTracked hdead
    · exact .of_error (.refl s) h.toTracked (.stopped id hdead)
    · exact .of_error (.refl s) h.toTracked (.stopped id hdead)

/-! ## Servers that are there -/

/-- A server that is there for a check: its process is alive, or the jar is there, the next start
succeeds, and the first ping of the new process is answered. -/
inductive Available (s : Server) : Prop where
  | running (hrunning : s.isRunning = true)
  | starting (life : Life) (hjar : s.host.files.isFile s.classpath = .ok true)
      (hstart : s.host.launches.headD Host.plainLaunch = .started life)
      (hlives : s.host.endings.headD none = none)
      (hping : s.host.pings.headD (.heard false) = .heard true)

theorem awaitReady_of_headD_pings {deadline : Deadline} (hrunning : s.isRunning = true)
    (husable : s.remote.connection.isUsable = true)
    (hping : s.host.pings.headD (.heard false) = .heard true) :
    (s.awaitReady deadline).value.1 = .ok () := by
  have hanswer : (s.host.ping (s.process.getD 0)).1 = .heard true := hping
  rcases ping_cases s with ⟨-, hcase⟩ | ⟨hclosed, -⟩
  · rw [hanswer] at hcase
    rw [Server.awaitReady, dif_pos hrunning]
    split
    next h => cases hcase.symm.trans h
    next h => rfl
    next h => cases hcase.symm.trans h
  · exact absurd husable (Bool.eq_false_iff.1 hclosed)

theorem pass_of_headD_eq_none {h : Host} (hlives : h.endings.headD none = none) :
    h.pass = { h with endings := h.endings.tail } := by
  unfold Host.pass
  cases hendings : h.endings with
  | nil => cases h; cases hendings; rfl
  | cons ending rest =>
    rw [hendings] at hlives
    obtain rfl : ending = none := hlives
    rfl

theorem launch_of_started {h : Host} {life : Life} (command : List String)
    (hstart : h.launches.headD Host.plainLaunch = .started life)
    (hlives : h.endings.headD none = none) :
    ∃ host, h.launch command = (.ok h.processes.length, host) ∧
      host.isAlive h.processes.length = true ∧ host.pings = h.pings := by
  unfold Host.launch
  rw [hstart]
  refine ⟨_, rfl, ?_, ?_⟩
  · rw [pass_of_headD_eq_none]
    · simp [Host.isAlive, Host.record, Process.isAlive]
    · exact hlives
  · rw [pass_of_headD_eq_none]
    · rfl
    · exact hlives

theorem Available.ensureStarted (h : Available s)
    (husable : s.remote.connection.isUsable = true) : s.ensureStarted.value.1 = .ok () := by
  unfold Server.ensureStarted
  split
  next => rfl
  next hdead =>
    cases h with
    | running hrunning => exact absurd hrunning hdead
    | starting life hjar hstart hlives hping =>
      obtain ⟨host, hlaunch, halive, hpings⟩ := launch_of_started s.command hstart hlives
      rw [hjar]
      dsimp only
      unfold Server.start
      rw [hlaunch]
      have hfirst : host.readClock.2.pings.headD (.heard false) = .heard true :=
        (congrArg (·.headD (.heard false)) hpings).trans hping
      show (Server.awaitReady (.after host.readClock.1 s.timeout) (Server.readClock
        { s with host, process := some s.host.processes.length }).2).value.1 = .ok ()
      exact awaitReady_of_headD_pings halive husable hfirst

/-! ## Checking -/

/-- A check that has failed before it sent anything. -/
structure Failed (s : Server) (result : Except Fault (List Suggestion)) (later : Server) :
    Prop where
  silent : Silent s later
  tracked : Tracked later
  fault : ∃ fault, result = .error fault ∧ Aftermath s fault later

/-- A check that has sent its request, from a server that was ready with a stored process. -/
structure Asked (s : Server) (language text : String) (result : Except Fault (List Suggestion))
    (later : Server) : Prop where
  isUsable : s.remote.connection.isUsable = true
  steady : Steady later
  remote_eq : later.remote = s.remote
  sent : ∃ ready id, Silent s ready ∧ Tracked ready ∧ Settled ready.host.trace ∧
    ready.process = some id ∧ later.process = some id ∧
    Requested ready.host (s.remote.checkRequest language text) later.host
  result_eq : result = (s.remote.readReply text (s.host.replies.headD Session.noReply)).map
    (s.remote.settings.filter language text)

theorem value_check (s : Server) (language text : String) :
    (s.check language text).value = match s.ensureStarted.value with
      | (.ok (), ready) => (ready.sendCheck language text).value
      | (.error fault, ready) => (.error fault, ready) := by
  rw [Server.check, Logged.value_bind]
  generalize s.ensureStarted.value = prepared
  obtain ⟨outcome, ready⟩ := prepared
  cases outcome <;> rfl

theorem value_sendCheck {language text : String} (h : s.remote.connection.isUsable = true) :
    (s.sendCheck language text).value =
      ((s.remote.readReply text (s.host.replies.headD Session.noReply)).map
          (s.remote.settings.filter language text),
        { s with host := (s.host.exchange (s.remote.checkRequest language text)).2 }) := by
  rw [Server.sendCheck, if_pos h]
  exact Prod.ext (value_conclude _ _ _ _) rfl

theorem value_sendCheck_of_closed (h : s.remote.connection.isUsable = false)
    (language text : String) :
    (s.sendCheck language text).value = (.error .clientClosed, s) := by
  rw [Server.sendCheck, h]
  rfl

theorem Steady.asked (h : Steady s) (language text : String)
    (husable : s.remote.connection.isUsable = true) (hok : s.ensureStarted.value.1 = .ok ()) :
    Asked s language text (s.check language text).value.1 (s.check language text).value.2 := by
  obtain ⟨hsilent, htracked, hsettled, -, -⟩ := h.prepared
  rw [value_check]
  generalize s.ensureStarted.value = prepared at hsilent htracked hsettled hok
  obtain ⟨outcome, ready⟩ := prepared
  obtain rfl : outcome = .ok () := hok
  obtain ⟨hready, id, hid⟩ := hsettled rfl husable
  have hopen : ready.remote.connection.isUsable = true := hsilent.remote_eq ▸ husable
  have hrequest := requested_exchange hready (s.remote.checkRequest language text)
  dsimp only
  rw [value_sendCheck hopen, hsilent.remote_eq, hsilent.replies_eq]
  refine ⟨husable, ⟨⟨hrequest.sound htracked.sound, ?_, ?_⟩, fun _ _ => hrequest.settled⟩, rfl,
    ⟨ready, id, hsilent, htracked, hready, hid, hid, hrequest⟩, rfl⟩
  · intro other hother
    rw [hrequest.length_eq]
    exact htracked.last other hother
  · intro other halive
    exact htracked.stored other (hrequest.isAlive_of other halive)

/-- A check of a closed client, or of a server that is not ready, sends nothing. -/
theorem Steady.failed (h : Steady s) (language text : String)
    (hno : s.remote.connection.isUsable = true → s.ensureStarted.value.1 ≠ .ok ()) :
    Failed s (s.check language text).value.1 (s.check language text).value.2 := by
  obtain ⟨hsilent, htracked, -, hkept, hfailed⟩ := h.prepared
  rw [value_check]
  generalize s.ensureStarted.value = prepared at hsilent htracked hkept hfailed hno
  obtain ⟨outcome, ready⟩ := prepared
  cases outcome with
  | error fault => exact ⟨hsilent, htracked, fault, rfl, hfailed fault rfl⟩
  | ok =>
    have hclosed : s.remote.connection.isUsable = false :=
      Bool.eq_false_iff.2 fun hopen => hno hopen rfl
    dsimp only
    rw [value_sendCheck_of_closed (by rw [hsilent.remote_eq, hclosed])]
    obtain ⟨hrunning, hstops⟩ := hkept rfl hclosed
    exact ⟨hsilent, htracked, _, rfl, .closed hclosed hrunning hstops⟩

/-- Behind a check that has failed the server is steady again, unless there is no end to wait for. -/
theorem Failed.steady {result : Except Fault (List Suggestion)} (h : Failed s result later)
    (hends : result ≠ .error .endlessWait) : Steady later := by
  obtain ⟨hsilent, htracked, fault, rfl, hafter⟩ := h
  refine ⟨htracked, fun hrunning husable => ?_⟩
  cases hafter with
  | stopped _ hdead => cases hdead.symm.trans hrunning
  | closed hclosed => rw [hsilent.remote_eq, hclosed] at husable; cases husable
  | raised _ hsettled => exact hsettled
  | endless => exact absurd rfl hends

/-- A check fails before it sends anything, or it sends its request. -/
theorem Steady.check (h : Steady s) (language text : String) :
    Failed s (s.check language text).value.1 (s.check language text).value.2 ∨
      Asked s language text (s.check language text).value.1 (s.check language text).value.2 := by
  by_cases hready : s.remote.connection.isUsable = true ∧ s.ensureStarted.value.1 = .ok ()
  · exact .inr (h.asked language text hready.1 hready.2)
  · exact .inl (h.failed language text fun husable hok => hready ⟨husable, hok⟩)

end

end ProseTrace.Proofs.Checker.ServerWatch
