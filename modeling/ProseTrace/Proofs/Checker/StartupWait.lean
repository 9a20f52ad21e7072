import Mathlib.Data.Rat.Floor
import Mathlib.Tactic.IntervalCases
import Mathlib.Tactic.NormNum
import ProseTrace.Proofs.Checker.FailedStarts
import ProseTrace.Proofs.Checker.Stopping
import ProseTrace.Proofs.Decimal.Rounding

/-!
# The wait for a start

A server that was just started is pinged in rounds.  The first round that stops the wait decides how
it ends: the process has exited, or the ping is answered, or it is not and the deadline has passed,
or the ping ends with an error of the client.
A clock that is never set back bounds the rounds.  The deadline is a rounded sum, so the bound is
told by the deadline, and by the timeout only as far as the rounding goes; where the sum is rounded
to infinity there is no bound.
-/

namespace ProseTrace.Proofs.Checker.StartupWait

open ProseTrace.Checker ProseTrace.Decimal
open ProseTrace.Proofs.Checker.HostWatch ProseTrace.Proofs.Checker.ServerWatch
open ProseTrace.Proofs.Checker.FailedStarts ProseTrace.Proofs.Checker.Stopping
open ProseTrace.Proofs.Decimal.Rounding

/-! ## Rounds -/

def reading (s : Server) : Rat := s.ping.2.readClock.1

/-- The server at the next round, if this one does not stop the wait. -/
def nextRound (s : Server) : Server := s.ping.2.readClock.2.sleep

/-- The server at each round of a wait that nothing stops. -/
def atRound (s : Server) : Nat → Server
  | 0 => s
  | n + 1 => atRound (nextRound s) n

/-- A round in which a running server leaves a ping unanswered behind the deadline. -/
structure IsLate (deadline : Deadline) (s : Server) : Prop where
  running : s.isRunning = true
  silent : s.ping.1 = .ok false
  late : deadline.isBefore (reading s) = true

structure GoesOn (deadline : Deadline) (s : Server) : Prop where
  running : s.isRunning = true
  silent : s.ping.1 = .ok false
  early : deadline.isBefore (reading s) = false

/-- How a wait ends with a round: its outcome, and the server behind it. -/
inductive Ends (deadline : Deadline) (s : Server) : Except Fault Unit → Server → Prop where
  | exited (hdead : s.isRunning = false) :
      Ends deadline s (.error (.backend (.exitedDuringStartup s.exitCode?))) s
  | answered (hrunning : s.isRunning = true) (hanswer : s.ping.1 = .ok true) :
      Ends deadline s (.ok ()) s.ping.2
  | late (hlate : IsLate deadline s) :
      Ends deadline s (.error (.backend (.notReady (s.timeout.spell Json.inlineWords))))
        s.ping.2.readClock.2.stop.value
  | closed (hrunning : s.isRunning = true) (hclosed : s.remote.connection.isUsable = false) :
      Ends deadline s (.error .clientClosed) s
  | raised (reason : String) (hrunning : s.isRunning = true)
      (hraised : s.ping.1 = .error (.pingRaised reason)) :
      Ends deadline s (.error (.pingRaised reason)) s.ping.2

/-- A server that runs, and will neither answer nor exit. -/
structure Idle (s : Server) : Prop where
  running : s.isRunning = true
  usable : s.remote.connection.isUsable = true
  suspense_eq : s.suspense = 0

section

variable {deadline : Deadline} {s later : Server} {outcome : Except Fault Unit} {n : Nat}

theorem GoesOn.not_isLate (h : GoesOn deadline s) : ¬ IsLate deadline s := fun hlate =>
  nomatch h.early.symm.trans hlate.late

theorem Ends.not_goesOn (h : Ends deadline s outcome later) : ¬ GoesOn deadline s := by
  intro hon
  cases h with
  | exited hdead => cases hdead.symm.trans hon.running
  | answered hrunning hanswer => cases hanswer.symm.trans hon.silent
  | late hlate => exact hon.not_isLate hlate
  | closed hrunning hclosed => cases (fst_ping_of_closed hclosed).symm.trans hon.silent
  | raised reason hrunning hraised => cases hraised.symm.trans hon.silent

/-! ## Waits without hope -/

theorem isAlive_afterPing {process : Process} (halive : process.isAlive = true)
    (hleft : process.pingsLeft = 0) : process.afterPing.isAlive = true := by
  cases hexit : process.life.exit <;>
    grind [Process.afterPing, Process.pingsLeft, Process.isAlive]

theorem suspense_eq_zero_iff {h : Host} {id : Nat} :
    h.suspense id = 0 ↔ h.pings = [] ∧ h.endings = [] ∧ h.pingsLeft id = 0 := by
  rw [Host.suspense, Nat.add_eq_zero_iff, Nat.add_eq_zero_iff, List.length_eq_zero_iff,
    List.length_eq_zero_iff, and_assoc]

theorem pass_of_endings_eq_nil {h : Host} (hnone : h.endings = []) : h.pass = h := by
  rw [Host.pass, hnone]

theorem isAlive_ping {h : Host} {id : Nat} (halive : h.isAlive id = true)
    (hnone : h.suspense id = 0) : (h.ping id).2.isAlive id = true := by
  obtain ⟨-, hendings, hleft⟩ := suspense_eq_zero_iff.1 hnone
  generalize hasked : Host.record { h with pings := h.pings.tail }
    (.ping (h.pings.headD (.heard false))) = asked
  have hprocesses : asked.processes = h.processes := by rw [← hasked]; rfl
  have hstill : (asked.countPing id).endings = [] := by
    obtain ⟨_, _, hcount⟩ := asked.countPing_eq id
    rw [hcount, ← hasked]
    exact hendings
  have hping : (h.ping id).2 = asked.countPing id :=
    calc (h.ping id).2 = (asked.countPing id).pass := by rw [← hasked]; rfl
      _ = asked.countPing id := pass_of_endings_eq_nil hstill
  rw [hping, Host.isAlive, Host.processes_countPing, hprocesses, List.getElem?_modify]
  rw [Host.isAlive] at halive
  rw [Host.pingsLeft] at hleft
  cases hprocess : h.processes[id]? with
  | none => rw [hprocess] at halive; cases halive
  | some process =>
    rw [hprocess] at halive hleft
    simp only [if_true]
    exact isAlive_afterPing halive hleft

theorem Idle.ping (h : Idle s) : s.ping.1 = .ok false ∧ Idle s.ping.2 := by
  obtain ⟨id, hid, halive⟩ := isRunning_iff.1 h.running
  have hnumber : s.process.getD 0 = id := by rw [hid]; rfl
  have hnone : s.host.suspense id = 0 := hnumber ▸ h.suspense_eq
  have hsilent : (s.host.ping id).1 = .heard false :=
    congrArg (·.headD (.heard false)) (suspense_eq_zero_iff.1 hnone).1
  have hstill : (s.host.ping id).2.suspense id = 0 :=
    Nat.le_zero.1 ((Host.suspense_ping_le _ _).trans hnone.le)
  rcases ping_cases s with ⟨-, hping⟩ | ⟨hclosed, -⟩
  · rw [hping, hnumber, hsilent]
    exact ⟨rfl, isRunning_iff.2 ⟨id, hid, isAlive_ping halive hnone⟩, h.usable,
      (congrArg (Host.suspense _) hnumber).trans hstill⟩
  · cases hclosed.symm.trans h.usable

theorem Idle.sleep (h : Idle s) : Idle s.readClock.2.sleep := by
  obtain ⟨id, hid, halive⟩ := isRunning_iff.1 h.running
  have hsleep : s.readClock.2.host.sleep.isAlive id = s.host.isAlive id := by
    rw [Host.sleep, pass_of_endings_eq_nil]
    · rfl
    · exact (suspense_eq_zero_iff.1 h.suspense_eq).2.1
  exact ⟨isRunning_iff.2 ⟨id, hid, hsleep.trans halive⟩, h.usable,
    Nat.le_zero.1 ((Host.suspense_sleep_le s.readClock.2.host _).trans h.suspense_eq.le)⟩

theorem idle_of_isHopeless (hsilent : s.ping.1 = .ok false)
    (hhopeless : s.ping.2.isHopeless = true) : Idle s.ping.2 := by
  obtain ⟨hrunning, hsuspense⟩ := Bool.and_eq_true_iff.1 hhopeless
  rcases ping_cases s with ⟨husable, hping⟩ | ⟨hclosed, -⟩
  · exact ⟨hrunning, by rw [hping]; exact husable, beq_iff_eq.1 hsuspense⟩
  · cases (fst_ping_of_closed hclosed).symm.trans hsilent

theorem Idle.goesOn (h : Idle s) (n : Nat) : GoesOn .never (atRound s n) := by
  induction n generalizing s with
  | zero => exact ⟨h.running, h.ping.1, rfl⟩
  | succ n ih => exact ih h.ping.2.sleep

/-! ## The end of a wait -/

theorem ends_of_error {fault : Fault} (hrunning : s.isRunning = true)
    (hping : s.ping = (.error fault, later)) : Ends deadline s (.error fault) later := by
  rcases ping_error hping with ⟨hclosed, rfl, rfl⟩ | ⟨-, reason, rfl⟩
  · exact .closed hrunning hclosed
  · obtain rfl : s.ping.2 = later := congrArg Prod.snd hping
    exact .raised reason hrunning (congrArg Prod.fst hping)

/-- A wait goes on for some rounds, and ends with the next one or not at all. -/
theorem ends_awaitReady (deadline : Deadline) (s : Server) :
    (∃ n, (∀ k < n, GoesOn deadline (atRound s k)) ∧
      Ends deadline (atRound s n) (s.awaitReady deadline).value.1
        (s.awaitReady deadline).value.2) ∨
    (s.awaitReady deadline).value.1 = .error .endlessWait ∧
      ∀ n, GoesOn deadline (atRound s n) := by
  fun_induction Server.awaitReady deadline s with
  | case1 s hrunning fault pinged hping =>
    exact .inl ⟨0, fun k hk => absurd hk k.not_lt_zero, ends_of_error hrunning hping⟩
  | case2 s hrunning pinged hping =>
    obtain rfl : s.ping.2 = pinged := congrArg Prod.snd hping
    exact .inl ⟨0, fun k hk => absurd hk k.not_lt_zero,
      .answered hrunning (congrArg Prod.fst hping)⟩
  | case3 s hrunning pinged hping late hbefore =>
    obtain rfl : s.ping.2 = pinged := congrArg Prod.snd hping
    exact .inl ⟨0, fun k hk => absurd hk k.not_lt_zero,
      .late ⟨hrunning, congrArg Prod.fst hping, hbefore⟩⟩
  | case4 s hrunning pinged hping late hbefore hhope =>
    obtain rfl : s.ping.2 = pinged := congrArg Prod.snd hping
    obtain ⟨rfl, hhopeless⟩ := hhope
    have hidle : Idle s.ping.2 := idle_of_isHopeless (congrArg Prod.fst hping) hhopeless
    refine .inr ⟨rfl, fun n => ?_⟩
    cases n with
    | zero => exact ⟨hrunning, congrArg Prod.fst hping, rfl⟩
    | succ n => exact hidle.sleep.goesOn n
  | case5 s hrunning pinged hping late hbefore hhope _ ih =>
    -- the rounds of the rest follow the one that leaves everything open
    obtain rfl : s.ping.2 = pinged := congrArg Prod.snd hping
    have hfirst : GoesOn deadline s :=
      ⟨hrunning, congrArg Prod.fst hping, Bool.eq_false_iff.2 hbefore⟩
    rcases ih with ⟨n, hgoes, hends⟩ | ⟨hendless, hgoes⟩
    · refine .inl ⟨n + 1, fun k hk => ?_, hends⟩
      cases k with
      | zero => exact hfirst
      | succ k => exact hgoes k (Nat.lt_of_succ_lt_succ hk)
    · refine .inr ⟨hendless, fun k => ?_⟩
      cases k with
      | zero => exact hfirst
      | succ k => exact hgoes k
  | case6 s hrunning =>
    exact .inl ⟨0, fun k hk => absurd hk k.not_lt_zero, .exited (Bool.eq_false_iff.2 hrunning)⟩

theorem eq_of_first {m : Nat} (hgoes : ∀ k < n, GoesOn deadline (atRound s k))
    (hstops : ¬ GoesOn deadline (atRound s n)) (hbefore : ∀ k < m, GoesOn deadline (atRound s k))
    (hend : ¬ GoesOn deadline (atRound s m)) : n = m := by
  rcases Nat.lt_trichotomy n m with hlt | heq | hlt
  · exact absurd (hbefore n hlt) hstops
  · exact heq
  · exact absurd (hgoes m hlt) hend

/-! ## The clock and the pings of the rounds -/

theorem host_ping (s : Server) : ∃ host, s.ping.2 = { s with host } ∧ host.clock = s.host.clock ∧
    host.lapses = s.host.lapses := by
  rcases ping_cases s with ⟨-, hping⟩ | ⟨-, hping⟩
  · rw [hping]
    exact ⟨_, rfl, Host.clock_ping _ _, Host.lapses_ping _ _⟩
  · rw [hping]
    exact ⟨s.host, rfl, rfl, rfl⟩

theorem reading_eq (s : Server) : reading s = s.host.clock + s.host.lapses.headD 0 := by
  obtain ⟨host, hping, hclock, hlapses⟩ := host_ping s
  rw [reading, hping, ← hclock, ← hlapses]
  rfl

theorem nextRound_eq (s : Server) : ∃ host, nextRound s = { s with host } ∧
    host.clock = reading s + Host.sleepTime ∧ host.lapses = s.host.lapses.tail := by
  obtain ⟨host, hping, -, hlapses⟩ := host_ping s
  refine ⟨host.readClock.2.sleep, by rw [nextRound, hping]; rfl, ?_, ?_⟩
  · rw [Host.clock_sleep, reading, hping]
    rfl
  · rw [Host.lapses_sleep, ← hlapses]
    rfl

theorem atRound_eq (s : Server) (n : Nat) : ∃ host, atRound s n = { s with host } := by
  induction n generalizing s with
  | zero => exact ⟨s.host, rfl⟩
  | succ n ih =>
    obtain ⟨host, hnext, -⟩ := nextRound_eq s
    obtain ⟨later, hlater⟩ := ih (nextRound s)
    exact ⟨later, by rw [atRound, hlater, hnext]⟩

theorem remote_atRound (s : Server) (n : Nat) : (atRound s n).remote = s.remote := by
  obtain ⟨host, hround⟩ := atRound_eq s n
  rw [hround]

theorem timeout_atRound (s : Server) (n : Nat) : (atRound s n).timeout = s.timeout := by
  obtain ⟨host, hround⟩ := atRound_eq s n
  rw [hround]

theorem clock_le_reading (hlapses : ∀ lapse ∈ s.host.lapses, 0 ≤ lapse) :
    s.host.clock ≤ reading s := by
  have hfirst : 0 ≤ s.host.lapses.headD 0 := by
    cases hscript : s.host.lapses with
    | nil => exact le_rfl
    | cons lapse rest => exact hlapses lapse (hscript ▸ List.mem_cons_self)
  rw [reading_eq]
  linarith

/-- The clock of a round has moved by the sleeps before it at least, if it is never set back. -/
theorem le_reading_atRound (hlapses : ∀ lapse ∈ s.host.lapses, 0 ≤ lapse) (n : Nat) :
    s.host.clock + n * Host.sleepTime ≤ reading (atRound s n) := by
  induction n generalizing s with
  | zero =>
    rw [Nat.cast_zero, zero_mul, add_zero]
    exact clock_le_reading hlapses
  | succ n ih =>
    obtain ⟨host, hnext, hclock, hrest⟩ := nextRound_eq s
    have hfirst := clock_le_reading hlapses
    have hlater : host.clock + n * Host.sleepTime ≤ reading (atRound (nextRound s) n) := by
      have hstill : ∀ lapse ∈ (nextRound s).host.lapses, 0 ≤ lapse := by
        rw [hnext, hrest]
        exact fun lapse hlapse => hlapses lapse (List.mem_of_mem_tail hlapse)
      have := ih hstill
      rwa [hnext] at this ⊢
    calc s.host.clock + (n + 1 : Nat) * Host.sleepTime
        = s.host.clock + Host.sleepTime + n * Host.sleepTime := by push_cast; ring
      _ ≤ host.clock + n * Host.sleepTime := by rw [hclock]; linarith
      _ ≤ reading (atRound s (n + 1)) := hlater

/-- While rounds go on, the sleeps before the last of them do not pass the deadline. -/
theorem rounds_le {time : Rat} (hlapses : ∀ lapse ∈ s.host.lapses, 0 ≤ lapse)
    (hgoes : ∀ k < n, GoesOn (.at time) (atRound s k)) :
    n ≤ ⌊4 * (time - s.host.clock)⌋₊ + 1 := by
  cases n with
  | zero => exact Nat.zero_le _
  | succ n =>
    have hread := le_reading_atRound hlapses n
    have hearly : reading (atRound s n) ≤ time :=
      not_lt.1 (mt Deadline.isBefore_at.2
        (Bool.eq_false_iff.1 (hgoes n (Nat.lt_succ_self n)).early))
    have hquarters : (n : Rat) ≤ 4 * (time - s.host.clock) := by
      rw [Host.sleepTime] at hread
      linarith
    exact Nat.succ_le_succ (Nat.le_floor hquarters)

theorem pings_atRound_le (s : Server) (n : Nat) :
    pings (atRound s n).host.trace ≤ pings s.host.trace + n := by
  induction n generalizing s with
  | zero => exact le_rfl
  | succ n ih =>
    have hround : pings (nextRound s).host.trace ≤ pings s.host.trace + 1 :=
      (pings_sleep _).le.trans (pings_ping_le s)
    calc pings (atRound (nextRound s) n).host.trace ≤ pings (nextRound s).host.trace + n := ih _
      _ ≤ pings s.host.trace + (n + 1) := by omega

theorem Ends.ne_endlessWait (h : Ends deadline s outcome later) :
    outcome ≠ .error .endlessWait := by
  cases h <;> nofun

theorem Ends.pings_le (h : Ends deadline s outcome later) :
    pings later.host.trace ≤ pings s.host.trace + 1 := by
  cases h with
  | exited => exact Nat.le_succ _
  | answered => exact pings_ping_le s
  | late => exact (pings_stop _).le.trans (pings_ping_le s)
  | closed => exact Nat.le_succ _
  | raised => exact pings_ping_le s

/-- Up to a deadline a wait sends a ping in each quarter of a second, and one more at most. -/
theorem awaitReady_at {time : Rat} (hlapses : ∀ lapse ∈ s.host.lapses, 0 ≤ lapse) :
    (s.awaitReady (.at time)).value.1 ≠ .error .endlessWait ∧
      pings (s.awaitReady (.at time)).value.2.host.trace ≤
        pings s.host.trace + (⌊4 * (time - s.host.clock)⌋₊ + 2) := by
  rcases ends_awaitReady (.at time) s with ⟨n, hgoes, hends⟩ | ⟨-, hgoes⟩
  · have hrounds := rounds_le hlapses hgoes
    have hlast := hends.pings_le
    have hbefore := pings_atRound_le s n
    exact ⟨hends.ne_endlessWait, by omega⟩
  · have hrounds : ⌊4 * (time - s.host.clock)⌋₊ + 2 ≤ ⌊4 * (time - s.host.clock)⌋₊ + 1 :=
      rounds_le hlapses fun k _ => hgoes k
    omega

/-! ## What decides the outcome -/

/-- A wait finds the server ready exactly if one that runs answers a ping, and each server before
runs, is not late, and ends its ping without an error. -/
theorem ok_iff (hgoes : ∀ k < n, GoesOn deadline (atRound s k))
    (hends : Ends deadline (atRound s n) outcome later) :
    outcome = .ok () ↔ ∃ m, (atRound s m).isRunning = true ∧ (atRound s m).ping.1 = .ok true ∧
      ∀ k < m, (atRound s k).isRunning = true ∧ ¬ IsLate deadline (atRound s k) ∧
        ∀ reason, (atRound s k).ping.1 ≠ .error (.pingRaised reason) := by
  constructor
  · rintro rfl
    cases hends with
    | answered hrunning hanswer =>
      refine ⟨n, hrunning, hanswer, fun k hk => ⟨(hgoes k hk).running, (hgoes k hk).not_isLate, ?_⟩⟩
      exact fun reason hraised => nomatch hraised.symm.trans (hgoes k hk).silent
  · rintro ⟨m, hrunning, hanswer, hbefore⟩
    -- the answered ping is not before the end, so what ends the wait is at it or one of `hbefore`
    have hle : n ≤ m := not_lt.1 fun hlt => nomatch hanswer.symm.trans (hgoes m hlt).silent
    have hruns : (atRound s n).isRunning = true :=
      hle.lt_or_eq.elim (fun hlt => (hbefore n hlt).1) fun heq => heq ▸ hrunning
    cases hends with
    | answered => rfl
    | exited hdead => cases hdead.symm.trans hruns
    | late hlate =>
      rcases hle.lt_or_eq with hlt | rfl
      · exact absurd hlate (hbefore n hlt).2.1
      · cases hanswer.symm.trans hlate.silent
    | closed _ hclosed =>
      rw [remote_atRound, ← remote_atRound s m] at hclosed
      cases (fst_ping_of_closed hclosed).symm.trans hanswer
    | raised reason _ hraised =>
      rcases hle.lt_or_eq with hlt | rfl
      · exact absurd hraised ((hbefore n hlt).2.2 reason)
      · cases hanswer.symm.trans hraised

/-- A wait tells an exit exactly if a server has exited before the wait was stopped otherwise. -/
theorem exited_iff (hgoes : ∀ k < n, GoesOn deadline (atRound s k))
    (hends : Ends deadline (atRound s n) outcome later) (code : Option Int) :
    outcome = .error (.backend (.exitedDuringStartup code)) ↔
      ∃ m, (atRound s m).isRunning = false ∧ (atRound s m).exitCode? = code ∧
        ∀ k < m, GoesOn deadline (atRound s k) := by
  constructor
  · rintro rfl
    cases hends with
    | exited hdead => exact ⟨n, hdead, rfl, hgoes⟩
  · rintro ⟨m, hdead, rfl, hbefore⟩
    obtain rfl : n = m := eq_of_first hgoes hends.not_goesOn hbefore fun hon =>
      nomatch hdead.symm.trans hon.running
    cases hends with
    | exited => rfl
    | answered hrunning => cases hdead.symm.trans hrunning
    | late hlate => cases hdead.symm.trans hlate.running
    | closed hrunning => cases hdead.symm.trans hrunning
    | raised _ hrunning => cases hdead.symm.trans hrunning

/-- The first late server ends the wait, and is stopped before the failure is told. -/
theorem eq_of_isLate {m : Nat} (hgoes : ∀ k < n, GoesOn deadline (atRound s k))
    (hends : Ends deadline (atRound s n) outcome later)
    (hbefore : ∀ k < m, GoesOn deadline (atRound s k)) (hlate : IsLate deadline (atRound s m)) :
    outcome = .error (.backend (.notReady (s.timeout.spell Json.inlineWords))) ∧
      later = (atRound s m).ping.2.readClock.2.stop.value := by
  obtain rfl : n = m := eq_of_first hgoes hends.not_goesOn hbefore fun hon =>
    hon.not_isLate hlate
  cases hends with
  | late =>
    rw [timeout_atRound]
    exact ⟨rfl, rfl⟩
  | answered _ hanswer => cases hanswer.symm.trans hlate.silent
  | exited hdead => cases hdead.symm.trans hlate.running
  | closed _ hclosed => cases (fst_ping_of_closed hclosed).symm.trans hlate.silent
  | raised _ _ hraised => cases hraised.symm.trans hlate.silent

/-- A wait tells that a server is not ready exactly if one was late before the wait was stopped
otherwise. -/
theorem notReady_iff (hgoes : ∀ k < n, GoesOn deadline (atRound s k))
    (hends : Ends deadline (atRound s n) outcome later) :
    outcome = .error (.backend (.notReady (s.timeout.spell Json.inlineWords))) ↔
      ∃ m, IsLate deadline (atRound s m) ∧ ∀ k < m, GoesOn deadline (atRound s k) := by
  constructor
  · intro htold
    cases hends with
    | late hlate => exact ⟨n, hlate, hgoes⟩
    | _ => cases htold
  · rintro ⟨m, hlate, hbefore⟩
    exact (eq_of_isLate hgoes hends hbefore hlate).1

/-- A wait ends with an error of a ping exactly if one has ended so before the wait was stopped
otherwise, and leaves the server as it is behind the ping. -/
theorem raised_iff (hgoes : ∀ k < n, GoesOn deadline (atRound s k))
    (hends : Ends deadline (atRound s n) outcome later) (reason : String) :
    outcome = .error (.pingRaised reason) ↔
      ∃ m, (atRound s m).isRunning = true ∧
        (atRound s m).ping.1 = .error (.pingRaised reason) ∧ later = (atRound s m).ping.2 ∧
        ∀ k < m, GoesOn deadline (atRound s k) := by
  constructor
  · rintro rfl
    cases hends with
    | raised _ hrunning hraised => exact ⟨n, hrunning, hraised, rfl, hgoes⟩
  · rintro ⟨m, hrunning, hraised, -, hbefore⟩
    obtain rfl : n = m := eq_of_first hgoes hends.not_goesOn hbefore fun hon =>
      nomatch hraised.symm.trans hon.silent
    cases hends with
    | raised other _ hother => exact congrArg _ (Except.error.inj (hother.symm.trans hraised))
    | answered _ hanswer => cases hanswer.symm.trans hraised
    | exited hdead => cases hdead.symm.trans hrunning
    | late hlate => cases hraised.symm.trans hlate.silent
    | closed _ hclosed => cases (fst_ping_of_closed hclosed).symm.trans hraised

/-- A wait for a closed client ends with its error at once, unless the server has exited. -/
theorem closed_iff (hgoes : ∀ k < n, GoesOn deadline (atRound s k))
    (hends : Ends deadline (atRound s n) outcome later) :
    outcome = .error .clientClosed ↔
      s.isRunning = true ∧ s.remote.connection.isUsable = false := by
  constructor
  · rintro rfl
    cases hends with
    | closed hrunning hclosed =>
      rw [remote_atRound] at hclosed
      cases n with
      | zero => exact ⟨hrunning, hclosed⟩
      | succ n => exact ⟨(hgoes 0 n.succ_pos).running, hclosed⟩
  · rintro ⟨hrunning, hclosed⟩
    have hraised : s.ping.1 = .error .clientClosed := fst_ping_of_closed hclosed
    obtain rfl : n = 0 := Nat.eq_zero_of_not_pos fun hpos =>
      nomatch hraised.symm.trans (hgoes 0 hpos).silent
    cases hends with
    | closed => rfl
    | exited hdead => cases hdead.symm.trans hrunning
    | answered _ hanswer => cases hraised.symm.trans hanswer
    | late hlate => cases hraised.symm.trans hlate.silent
    | raised _ _ hother => cases hraised.symm.trans hother

theorem outcome_cases (hends : Ends deadline (atRound s n) outcome later) :
    outcome = .ok () ∨ (∃ code, outcome = .error (.backend (.exitedDuringStartup code))) ∨
      outcome = .error (.backend (.notReady (s.timeout.spell Json.inlineWords))) ∨
      (∃ reason, outcome = .error (.pingRaised reason)) ∨ outcome = .error .endlessWait ∨
      outcome = .error .clientClosed ∧ s.remote.connection.isUsable = false := by
  cases hends with
  | answered => exact .inl rfl
  | exited => exact .inr (.inl ⟨_, rfl⟩)
  | late =>
    rw [timeout_atRound]
    exact .inr (.inr (.inl rfl))
  | raised reason => exact .inr (.inr (.inr (.inl ⟨reason, rfl⟩)))
  | closed _ hclosed =>
    exact .inr (.inr (.inr (.inr (.inr ⟨rfl, remote_atRound s n ▸ hclosed⟩))))

end

/-! ## The wait of a start -/

/-- The wait that a start ends with: the deadline is reckoned from the first reading of the
clock. -/
def waitForStart (s : Server) : Logged (Except Fault Unit × Server) :=
  s.readClock.2.awaitReady (.after s.readClock.1 s.timeout)

/-- The deadline is the sum of the time and the timeout, rounded. -/
theorem after_eq_at {timeout : Binary64} {now seconds time : Rat}
    (htimeout : timeout.toRat? = some seconds)
    (htime : (Binary64.ofRat (now + seconds)).toRat? = some time) :
    Deadline.after now timeout = .at time := by
  rw [Deadline.after, htimeout]
  dsimp only [Deadline.ofValue]
  rw [htime]

/-- How the rounds from a server on decide a wait up to a deadline. -/
structure Decided (deadline : Deadline) (s : Server) (outcome : Except Fault Unit)
    (later : Server) : Prop where
  ok_iff : outcome = .ok () ↔
    ∃ n, (atRound s n).isRunning = true ∧ (atRound s n).ping.1 = .ok true ∧
      ∀ k < n, (atRound s k).isRunning = true ∧ ¬ IsLate deadline (atRound s k) ∧
        ∀ reason, (atRound s k).ping.1 ≠ .error (.pingRaised reason)
  exited_iff : ∀ code, outcome = .error (.backend (.exitedDuringStartup code)) ↔
    ∃ n, (atRound s n).isRunning = false ∧ (atRound s n).exitCode? = code ∧
      ∀ k < n, GoesOn deadline (atRound s k)
  notReady_iff : outcome = .error (.backend (.notReady (s.timeout.spell Json.inlineWords))) ↔
    ∃ n, IsLate deadline (atRound s n) ∧ ∀ k < n, GoesOn deadline (atRound s k)
  discarded : ∀ n, IsLate deadline (atRound s n) → (∀ k < n, GoesOn deadline (atRound s k)) →
    Discarded (atRound s n).ping.2.readClock.2 later
  raised_iff : ∀ reason, outcome = .error (.pingRaised reason) ↔
    ∃ n, (atRound s n).isRunning = true ∧ (atRound s n).ping.1 = .error (.pingRaised reason) ∧
      later = (atRound s n).ping.2 ∧ ∀ k < n, GoesOn deadline (atRound s k)
  closed_iff : outcome = .error .clientClosed ↔
    s.isRunning = true ∧ s.remote.connection.isUsable = false
  endless_iff : outcome = .error .endlessWait ↔ ∀ n, GoesOn deadline (atRound s n)
  cases_outcome : outcome = .ok () ∨
    (∃ code, outcome = .error (.backend (.exitedDuringStartup code))) ∨
    outcome = .error (.backend (.notReady (s.timeout.spell Json.inlineWords))) ∨
    (∃ reason, outcome = .error (.pingRaised reason)) ∨ outcome = .error .endlessWait ∨
    outcome = .error .clientClosed ∧ s.remote.connection.isUsable = false

theorem decided_of_endless {deadline : Deadline} {s later : Server} {outcome : Except Fault Unit}
    (hendless : outcome = .error .endlessWait) (hgoes : ∀ n, GoesOn deadline (atRound s n)) :
    Decided deadline s outcome later := by
  subst hendless
  refine ⟨⟨nofun, ?_⟩, fun code => ⟨nofun, ?_⟩, ⟨nofun, ?_⟩, fun n hlate => ?_,
    fun reason => ⟨nofun, ?_⟩, ⟨nofun, ?_⟩, ⟨fun _ => hgoes, fun _ => rfl⟩,
    .inr (.inr (.inr (.inr (.inl rfl))))⟩
  · rintro ⟨n, -, hanswer, -⟩
    cases hanswer.symm.trans (hgoes n).silent
  · rintro ⟨n, hdead, -⟩
    cases hdead.symm.trans (hgoes n).running
  · rintro ⟨n, hlate, -⟩
    exact absurd hlate (hgoes n).not_isLate
  · exact absurd hlate (hgoes n).not_isLate
  · rintro ⟨n, -, hraised, -⟩
    cases hraised.symm.trans (hgoes n).silent
  · rintro ⟨-, hclosed⟩
    cases (fst_ping_of_closed hclosed).symm.trans (hgoes 0).silent

theorem decided_awaitReady (deadline : Deadline) (s : Server) :
    Decided deadline s (s.awaitReady deadline).value.1 (s.awaitReady deadline).value.2 := by
  rcases ends_awaitReady deadline s with ⟨n, hgoes, hends⟩ | ⟨hendless, hgoes⟩
  · refine ⟨ok_iff hgoes hends, exited_iff hgoes hends, notReady_iff hgoes hends,
      fun m hlate hbefore => ?_, raised_iff hgoes hends, closed_iff hgoes hends,
      ⟨fun h => absurd h hends.ne_endlessWait, fun h => absurd (h n) hends.not_goesOn⟩,
      outcome_cases hends⟩
    rw [(eq_of_isLate hgoes hends hbefore hlate).2]
    exact discarded_stop _
  · exact decided_of_endless hendless hgoes

theorem waitForStart_at {s : Server} {time : Rat} (hlapses : ∀ lapse ∈ s.host.lapses, 0 ≤ lapse)
    (hdeadline : Deadline.after s.readClock.1 s.timeout = .at time) :
    (waitForStart s).value.1 ≠ .error .endlessWait ∧
      pings (waitForStart s).value.2.host.trace ≤
        pings s.host.trace + (⌊4 * (time - s.readClock.1)⌋₊ + 2) := by
  rw [waitForStart, hdeadline]
  exact awaitReady_at fun lapse hlapse => hlapses lapse (List.mem_of_mem_tail hlapse)

theorem waitForStart_of_isLate (deadline : Deadline) (n : Nat) {s : Server}
    (hdeadline : Deadline.after s.readClock.1 s.timeout = deadline)
    (hlate : IsLate deadline (atRound s.readClock.2 n))
    (hbefore : ∀ k < n, GoesOn deadline (atRound s.readClock.2 k)) :
    (waitForStart s).value =
      (.error (.backend (.notReady (s.timeout.spell Json.inlineWords))),
        (atRound s.readClock.2 n).ping.2.readClock.2.stop.value) := by
  subst hdeadline
  rcases ends_awaitReady (.after s.readClock.1 s.timeout) s.readClock.2 with
    ⟨m, hgoes, hends⟩ | ⟨-, hgoes⟩
  · exact Prod.ext_iff.2 (eq_of_isLate hgoes hends hbefore hlate)
  · exact absurd hlate (hgoes n).not_isLate

theorem waitForStart_of_idle {s : Server}
    (hdeadline : Deadline.after s.readClock.1 s.timeout = .never) (hidle : Idle s.readClock.2) :
    (waitForStart s).value.1 = .error .endlessWait := by
  rw [waitForStart, hdeadline]
  exact (decided_awaitReady .never _).endless_iff.2 hidle.goesOn

/-- The wait of a start is decided by the first round that stops it.  Up to its deadline it pings in
each quarter of a second; while the times are below `2 ^ 50` seconds there is such a deadline, and
that it was rounded up is one ping more at most. -/
theorem waitForStart_decided {s : Server} {seconds : Rat}
    (htimeout : s.timeout.toRat? = some seconds) (hseconds : 0 ≤ seconds)
    (hlapses : ∀ lapse ∈ s.host.lapses, 0 ≤ lapse) :
    Decided (.after s.readClock.1 s.timeout) s.readClock.2 (waitForStart s).value.1
      (waitForStart s).value.2 ∧
    (∀ time, Deadline.after s.readClock.1 s.timeout = .at time →
      (waitForStart s).value.1 ≠ .error .endlessWait ∧
      pings (waitForStart s).value.2.host.trace ≤
        pings s.host.trace + (⌊4 * (time - s.readClock.1)⌋₊ + 2) ∧
      (time ≤ s.readClock.1 + seconds →
        pings (waitForStart s).value.2.host.trace ≤ pings s.host.trace + (⌊4 * seconds⌋₊ + 2))) ∧
    (0 ≤ s.readClock.1 + seconds → s.readClock.1 + seconds < 2 ^ 50 →
      (waitForStart s).value.1 ≠ .error .endlessWait ∧
      pings (waitForStart s).value.2.host.trace ≤ pings s.host.trace + (⌊4 * seconds⌋₊ + 3)) := by
  refine ⟨decided_awaitReady _ _, fun time hdeadline => ?_, fun hsum hsmall => ?_⟩
  · obtain ⟨hends, hpings⟩ := waitForStart_at hlapses hdeadline
    refine ⟨hends, hpings, fun hexact => hpings.trans ?_⟩
    have hfloor : ⌊4 * (time - s.readClock.1)⌋₊ ≤ ⌊4 * seconds⌋₊ :=
      Nat.floor_le_floor (by linarith)
    omega
  · obtain ⟨time, htime, hround⟩ := exists_toRat?_ofRat hsum hsmall
    obtain ⟨hends, hpings⟩ := waitForStart_at hlapses (after_eq_at htimeout htime)
    refine ⟨hends, hpings.trans ?_⟩
    have hfloor : ⌊4 * (time - s.readClock.1)⌋₊ ≤ ⌊4 * seconds⌋₊ + 1 :=
      calc ⌊4 * (time - s.readClock.1)⌋₊ ≤ ⌊4 * seconds + 1⌋₊ :=
            Nat.floor_le_floor (by linarith)
        _ = ⌊4 * seconds⌋₊ + 1 := Nat.floor_add_one (by linarith)
    omega

/-- A server whose process was just started, and never answers. -/
def mute (life : Life) (clock : Rat) (timeout : Binary64) : Server :=
  { jarServer [] with
    timeout, process := some 0, host := { jarHost [] with processes := [⟨life, 0, none⟩], clock } }

theorem waitForStart_decided_of_exit :
    (mute ⟨some (2, 3), false⟩ 0 (.finite false 1 (-1))).timeout.toRat? = some (1 / 2) ∧
    (∀ lapse ∈ (mute ⟨some (2, 3), false⟩ 0 (.finite false 1 (-1))).host.lapses, 0 ≤ lapse) ∧
    (waitForStart (mute ⟨some (2, 3), false⟩ 0 (.finite false 1 (-1)))).value.1 =
      .error (.backend (.exitedDuringStartup (some 3))) ∧
    pings (waitForStart (mute ⟨some (2, 3), false⟩ 0 (.finite false 1 (-1)))).value.2.host.trace ≤
      4 := by
  have htimeout : (mute ⟨some (2, 3), false⟩ 0 (.finite false 1 (-1))).timeout.toRat? =
      some (1 / 2) := by decide +kernel
  have hlapses : ∀ lapse ∈ (mute ⟨some (2, 3), false⟩ 0 (.finite false 1 (-1))).host.lapses,
      0 ≤ lapse := nofun
  obtain ⟨hdecided, hbound, -⟩ := waitForStart_decided htimeout (by norm_num) hlapses
  obtain ⟨-, -, hpings⟩ := hbound (1 / 2) (by decide +kernel)
  refine ⟨htimeout, hlapses, (hdecided.exited_iff (some 3)).2 ⟨2, rfl, rfl, fun k hk => ?_⟩,
    (hpings (by decide +kernel)).trans ?_⟩
  · interval_cases k
    · exact ⟨rfl, rfl, by decide +kernel⟩
    · exact ⟨rfl, rfl, by decide +kernel⟩
  · have hfloor : ⌊4 * (1 / 2 : Rat)⌋₊ = 2 := by norm_num
    rw [hfloor]
    rfl

/-- What a rounded deadline, an exit and an overflow come to: a fourth ping although the timeout is
less than two quarters of a second; a server that is late and never told to terminate, as it has
exited at its last ping; and a wait without an end. -/
theorem waitForStart_exceptions :
    (∃ seconds, (Binary64.finite false (2 ^ 53 - 1) (-54)).toRat? = some seconds ∧ 0 ≤ seconds ∧
      ⌊4 * seconds⌋₊ + 2 = 3 ∧
      pings (waitForStart (mute ⟨none, false⟩ (1 / 2)
        (.finite false (2 ^ 53 - 1) (-54)))).value.2.host.trace = 4) ∧
    ((waitForStart (mute ⟨some (2, 3), false⟩ 0 (.finite false 0 0))).value.1 =
        .error (.backend (.notReady "0.0")) ∧
      (waitForStart (mute ⟨some (2, 3), false⟩ 0 (.finite false 0 0))).value.2.host.trace =
        [.ping (.heard false), .sleep, .ping (.heard false), .exited 3]) ∧
    (waitForStart (mute ⟨none, false⟩ (2 ^ 1023) (.finite false (2 ^ 53 - 1) 971))).value.1 =
      .error .endlessWait := by
  have hfloor : ⌊4 * ((2 ^ 53 - 1) / 2 ^ 54 : Rat)⌋₊ = 1 :=
    (Nat.floor_eq_iff (by norm_num)).2 (by norm_num)
  refine ⟨⟨(2 ^ 53 - 1) / 2 ^ 54, by decide +kernel, by norm_num, by rw [hfloor], ?_⟩, ?_, ?_⟩
  · rw [waitForStart_of_isLate (.at 1) 3 (by decide +kernel)
      ⟨rfl, rfl, by decide +kernel⟩ fun k hk => by
        interval_cases k <;> exact ⟨rfl, rfl, by decide +kernel⟩]
    rfl
  · rw [waitForStart_of_isLate (.at 0) 1 (by decide +kernel)
      ⟨rfl, rfl, by decide +kernel⟩ fun k hk => by
        interval_cases k
        exact ⟨rfl, rfl, by decide +kernel⟩]
    exact ⟨rfl, rfl⟩
  · exact waitForStart_of_idle (by decide +kernel) ⟨rfl, rfl, rfl⟩

end ProseTrace.Proofs.Checker.StartupWait
