import ProseTrace.Proofs.Checker.ServerWatch

/-!
# Stops

A server is stopped by asking its process to terminate, and by killing it if it does not.  How many
pings were sent is told by the trace, and a stop sends none.
-/

namespace ProseTrace.Proofs.Checker.Stopping

open ProseTrace.Checker
open ProseTrace.Proofs.Checker.HostWatch ProseTrace.Proofs.Checker.ServerWatch

/-! ## Pings -/

def isPing : HostEvent → Bool
  | .ping _ => true
  | _ => false

def pings (trace : List HostEvent) : Nat := trace.countP isPing

theorem pings_concat (trace : List HostEvent) (event : HostEvent) :
    pings (trace ++ [event]) = pings trace + (isPing event).toNat :=
  countP_concat

section

variable (h : Host) (id : Nat)

theorem pings_exit (code : Int) : pings (h.exit id code).trace = pings h.trace :=
  countP_exit (fun _ => rfl) h id code

theorem pings_pass : pings h.pass.trace = pings h.trace := countP_pass (fun _ => rfl) h

theorem pings_ping : pings (h.ping id).2.trace = pings h.trace + 1 :=
  countP_ping (fun _ => rfl) h id

theorem pings_sleep : pings h.sleep.trace = pings h.trace := countP_sleep (fun _ => rfl) h

theorem pings_terminate : pings (h.terminate id).trace = pings h.trace := by
  unfold Host.terminate
  dsimp only
  split
  · exact pings_concat _ _
  · exact (pings_exit _ _ _).trans (pings_concat _ _)

theorem pings_wait : pings (h.wait id).2.trace = pings h.trace :=
  (pings_pass _).trans (pings_concat _ _)

theorem pings_kill : pings (h.kill id).trace = pings h.trace :=
  (pings_exit _ _ _).trans (pings_concat _ _)

theorem pings_stopProcess (port : Int) :
    pings (Server.stopProcess h id port).value.trace = pings h.trace := by
  have hwaited : pings ((h.terminate id).wait id).2.trace = pings h.trace :=
    (pings_wait _ id).trans (pings_terminate h id)
  unfold Server.stopProcess
  split
  · dsimp only
    split
    · exact hwaited
    · exact (pings_kill _ id).trans hwaited
  · rfl

end

theorem pings_stop (s : Server) : pings s.stop.value.host.trace = pings s.host.trace := by
  unfold Server.stop
  split
  · exact pings_stopProcess _ _ _
  · rfl

theorem pings_ping_le (s : Server) :
    pings s.ping.2.host.trace ≤ pings s.host.trace + 1 := by
  rcases ping_cases s with ⟨-, hping⟩ | ⟨-, hping⟩
  · rw [hping]
    exact Nat.le_of_eq (pings_ping _ _)
  · rw [hping]
    exact Nat.le_succ _

/-! ## Stopping -/

/-- A server whose process was discarded: the process is forgotten and dead.  If it was alive it was
asked to terminate, and killed last of all if it was alive still behind the timed wait; one that had
exited by itself was left alone. -/
structure Discarded (s later : Server) : Prop where
  process_eq : later.process = none
  isAlive_eq : ∀ id, s.process = some id → later.host.isAlive id = false
  terminated : s.isRunning = true → s.host.trace ++ [.terminate] <+: later.host.trace
  killed : ∀ id, s.process = some id → s.host.isAlive id = true →
    ((s.host.terminate id).wait id).1 = false → [.kill, .exited (-9)] <:+ later.host.trace
  left : s.isRunning = false → later.host = s.host

section

variable {h : Host} {id : Nat}

theorem isAlive_of_wait (hstays : (h.wait id).1 = false) : (h.wait id).2.isAlive id = true := by
  simpa [Host.wait] using hstays

theorem trace_kill (halive : h.isAlive id = true) :
    (h.kill id).trace = h.trace ++ [.kill, .exited (-9)] := by
  rcases exit_cases (h.record .kill) id (-9) with ⟨hdead, -⟩ | ⟨-, -, htrace, -⟩
  · cases hdead.symm.trans halive
  · exact htrace.trans (List.append_assoc _ _ _)

theorem prefix_terminate (h : Host) (id : Nat) :
    h.trace ++ [.terminate] <+: (h.terminate id).trace := by
  unfold Host.terminate
  dsimp only
  split
  · exact List.prefix_rfl
  · exact Quiet.trace_prefix (quiet_exit (h.record .terminate) id _)

theorem value_stopProcess_of_isAlive (halive : h.isAlive id = true) (port : Int) :
    (Server.stopProcess h id port).value =
      if ((h.terminate id).wait id).1 then ((h.terminate id).wait id).2
      else ((h.terminate id).wait id).2.kill id := by
  rw [Server.stopProcess, if_pos halive]
  dsimp only
  split <;> rfl

theorem value_stopProcess_of_not_isAlive (hdead : h.isAlive id = false) (port : Int) :
    (Server.stopProcess h id port).value = h := by
  rw [Server.stopProcess, hdead]
  rfl

theorem prefix_stopProcess (halive : h.isAlive id = true) (port : Int) :
    h.trace ++ [.terminate] <+: (Server.stopProcess h id port).value.trace := by
  have hwaited : h.trace ++ [.terminate] <+: ((h.terminate id).wait id).2.trace :=
    (prefix_terminate h id).trans (Quiet.trace_prefix (quiet_wait _ id))
  rw [value_stopProcess_of_isAlive halive]
  split
  · exact hwaited
  · exact hwaited.trans (Quiet.trace_prefix (quiet_kill _ id))

theorem suffix_stopProcess (halive : h.isAlive id = true)
    (hstays : ((h.terminate id).wait id).1 = false) (port : Int) :
    [.kill, .exited (-9)] <:+ (Server.stopProcess h id port).value.trace := by
  rw [value_stopProcess_of_isAlive halive, if_neg (by rw [hstays]; decide),
    trace_kill (isAlive_of_wait hstays)]
  exact List.suffix_append _ _

end

theorem discarded_stop (s : Server) : Discarded s s.stop.value := by
  cases hprocess : s.process with
  | none =>
    have hdead : s.isRunning = false := by rw [Server.isRunning, hprocess]; rfl
    have hstop : s.stop.value = s := by rw [Server.stop, hprocess]; rfl
    rw [hstop]
    refine ⟨hprocess, fun id hid => ?_, fun hrunning => ?_, fun id hid => ?_, fun _ => rfl⟩
    · cases hprocess.symm.trans hid
    · cases hdead.symm.trans hrunning
    · cases hprocess.symm.trans hid
  | some id =>
    have hrunning : s.isRunning = s.host.isAlive id := by rw [Server.isRunning, hprocess]; rfl
    have hstop : s.stop.value =
        { s with process := none, host := (Server.stopProcess s.host id s.port).value } := by
      rw [Server.stop, hprocess]; rfl
    rw [hstop]
    refine ⟨rfl, fun other hother => ?_, fun halive => ?_, fun other hother halive hstays => ?_,
      fun hdead => ?_⟩
    · obtain rfl : id = other := Option.some.inj (hprocess.symm.trans hother)
      exact (quiet_stopProcess s.host id s.port).2
    · exact prefix_stopProcess (hrunning.symm.trans halive) s.port
    · obtain rfl : id = other := Option.some.inj (hprocess.symm.trans hother)
      exact suffix_stopProcess halive hstays s.port
    · exact value_stopProcess_of_not_isAlive (hrunning.symm.trans hdead) s.port

end ProseTrace.Proofs.Checker.Stopping
