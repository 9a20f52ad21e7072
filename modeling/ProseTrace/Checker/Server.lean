import ProseTrace.Checker.Deadline
import ProseTrace.Decimal.Spelling
import ProseTrace.Json.Inline

/-!
# A checker server of one's own

A checker that runs a server from a jar on the local machine, and is its remote client.  The server
is started at the first check, and again when it is no longer alive; a check waits until the server
answers pings, gives up when the server exits or takes too long, and then stops it.  A start may
take any binary64 number of seconds, and without a limit a wait need not end.
-/

namespace ProseTrace.Checker

open Document Finding

/-- A checker that runs a server from a jar; `process` is the number of the server's process on the
host, if one was started and not stopped. -/
structure Server where
  remote : Remote
  classpath : Path
  java : String
  port : Int
  timeout : Decimal.Binary64
  process : Option Nat
  host : Host

namespace Server

def mainClass : String := "org.languagetool.server.HTTPServer"

def jarName : String := "languagetool-server.jar"

inductive LocationError where
  | home (error : Path.HomeError)
  | overlong (error : FileTree.Overlong)
  deriving DecidableEq

def LocationError.message : LocationError → String
  | .home error => error.message
  | .overlong error => error.message

inductive SetupError where
  | location (error : LocationError)
  | remote (error : Remote.ConnectError)
  deriving DecidableEq

def SetupError.message : SetupError → String
  | .location error => error.message
  | .remote error => error.message

/-- The jar at a location: the location itself, or the jar in it if it is a directory. -/
def locateJar (files : FileTree) (homes : Path.Homes) (location : String) :
    Except LocationError Path := do
  let path ← ((Path.ofString location).expandHome homes).mapError LocationError.home
  let isDirectory ← (files.isDirectory path).mapError LocationError.overlong
  return if isDirectory then path.join (Path.ofString jarName) else path

def prepare (platform : Platform) (files : FileTree) (homes : Path.Homes) (location : String)
    (port : Int) (connection : Connection) : Except SetupError (Path × Remote) := do
  let classpath ← (locateJar files homes location).mapError SetupError.location
  let remote ← (Remote.connect platform "http://127.0.0.1" (.number port) connection).mapError
    SetupError.remote
  return (classpath, remote)

/-- A checker for the jar at a location; nothing is started yet. -/
def setUp (platform : Platform) (host : Host) (homes : Path.Homes) (location java : String)
    (port : Int) (timeout : Decimal.Binary64) (connection : Connection) :
    Except SetupError Server := do
  let (classpath, remote) ← prepare platform host.files homes location port connection
  return ⟨remote, classpath, java, port, timeout, none, host⟩

def allowWords (s : Server) (language : String) (words : List String) : Server :=
  { s with remote := s.remote.allowWords language words }

def disableChecks (s : Server) (language : String) (rules : List String) : Server :=
  { s with remote := s.remote.disableChecks language rules }

def command (s : Server) : List String :=
  [s.java, "-cp", s.classpath.toText, mainClass, "--port", toString s.port]

def isRunning (s : Server) : Bool := (s.process.map s.host.isAlive).getD false

def exitCode? (s : Server) : Option Int := s.process.bind s.host.exitCode?

/-- Stop a process of the host, at first kindly; `port` is told in the log. -/
def stopProcess (host : Host) (id : Nat) (port : Int) : Logged Host :=
  if host.isAlive id then
    let (ended, host) := (host.terminate id).wait id
    if ended then pure host
    else do
      Logged.note .warning s!"LanguageTool server on port {port} ignored terminate; killing it"
      return host.kill id
  else pure host

def stop (s : Server) : Logged Server :=
  match s.process with
  | some id => do return { s with process := none, host := ← stopProcess s.host id s.port }
  | none => pure s

/-- Whether the server answers a ping; nothing is sent on a closed connection. -/
def ping (s : Server) : Except Fault Bool × Server :=
  if s.remote.connection.isUsable then
    let (pong, host) := s.host.ping (s.process.getD 0)
    (pong.result, { s with host })
  else (.error .clientClosed, s)

def readClock (s : Server) : Rat × Server :=
  let (now, host) := s.host.readClock
  (now, { s with host })

def sleep (s : Server) : Server := { s with host := s.host.sleep }

/-- The pings of the server that can still turn out in more than one way. -/
def suspense (s : Server) : Nat := s.host.suspense (s.process.getD 0)

/-- The server runs, but will neither answer nor exit. -/
def isHopeless (s : Server) : Bool := s.isRunning && s.suspense == 0

/-- A bound on the rounds of a wait: those in which the clock moves on its own or is set back, and
those after them. -/
def roundsLeft (s : Server) : Deadline → Nat × Nat
  | .past => (0, 0)
  | .at time => (s.host.lapses.length, Deadline.quartersLeft time s.host.clock)
  | .never => (0, (if s.isRunning then 1 else 0) + s.suspense)

theorem ping_ok {s pinged : Server} {answer : Bool} (h : s.ping = (.ok answer, pinged)) :
    pinged = { s with host := (s.host.ping (s.process.getD 0)).2 } := by
  unfold ping at h
  split at h
  · exact (congrArg Prod.snd h).symm
  · cases congrArg Prod.fst h

theorem roundsLeft_round_at {s pinged : Server} {answer : Bool} {time : Rat}
    (hping : s.ping = (.ok answer, pinged))
    (hbefore : ¬ (Deadline.at time).isBefore pinged.readClock.1 = true) :
    Prod.Lex (· < ·) (· < ·) (pinged.readClock.2.sleep.roundsLeft (.at time))
      (s.roundsLeft (.at time)) := by
  have hclock : pinged.host.clock = s.host.clock := by rw [ping_ok hping]; simp
  have hlapses : pinged.host.lapses = s.host.lapses := by rw [ping_ok hping]; simp
  have hleft : pinged.readClock.2.sleep.host.lapses = s.host.lapses.tail := by
    rw [← hlapses]; exact Host.lapses_sleep _
  have hslept : pinged.readClock.2.sleep.host.clock = pinged.readClock.1 + Host.sleepTime :=
    Host.clock_sleep _
  simp only [roundsLeft, hleft, hslept]
  cases hs : s.host.lapses with
  | cons lapse rest => exact .left _ _ (Nat.lt_succ_self _)
  | nil =>
    have hnow : pinged.readClock.1 = s.host.clock :=
      (Host.readClock_of_lapses_eq_nil (hlapses.trans hs)).trans hclock
    rw [Deadline.isBefore_at] at hbefore
    exact .right _ (Deadline.quartersLeft_sleep (hnow ▸ Rat.le_refl) (Rat.not_lt.1 hbefore))

/-- A round without a deadline leaves fewer rounds, unless there is no hope. -/
theorem roundsLeft_round_never {s pinged : Server} {answer : Bool}
    (hrunning : s.isRunning = true) (hping : s.ping = (.ok answer, pinged))
    (hhope : ¬ pinged.isHopeless = true) :
    Prod.Lex (· < ·) (· < ·) (pinged.readClock.2.sleep.roundsLeft .never) (s.roundsLeft .never) := by
  have hsuspense : pinged.suspense = (s.host.ping (s.process.getD 0)).2.suspense
      (s.process.getD 0) := by rw [ping_ok hping]; rfl
  have hle := Host.suspense_ping_le s.host (s.process.getD 0)
  have hlt : _ → (s.host.ping (s.process.getD 0)).2.suspense (s.process.getD 0) <
    s.host.suspense (s.process.getD 0) := Host.suspense_ping_lt
  rw [← hsuspense] at hle hlt
  change pinged.suspense ≤ s.suspense at hle
  change _ → pinged.suspense < s.suspense at hlt
  have hslept : pinged.readClock.2.sleep.suspense ≤ pinged.suspense :=
    Host.suspense_sleep_le pinged.readClock.2.host _
  have hstill : pinged.readClock.2.sleep.isRunning = true → pinged.isRunning = true := by
    unfold isRunning
    cases hprocess : pinged.process with
    | none => simp [sleep, readClock, hprocess]
    | some id =>
      intro halive
      simp only [sleep, readClock, hprocess] at halive
      exact Host.isAlive_of_isAlive_sleep (h := pinged.host.readClock.2) halive
  refine .right _ ?_
  rw [if_pos hrunning]
  simp only [isHopeless, Bool.and_eq_true, beq_iff_eq, not_and] at hhope
  split
  next hslept => have := hhope (hstill hslept); have := hlt this; omega
  next => omega

theorem roundsLeft_round {s pinged : Server} {answer : Bool} {deadline : Deadline}
    (hrunning : s.isRunning = true) (hping : s.ping = (.ok answer, pinged))
    (hbefore : ¬ deadline.isBefore pinged.readClock.1 = true)
    (hhope : ¬ (deadline = .never ∧ pinged.isHopeless = true)) :
    Prod.Lex (· < ·) (· < ·) (pinged.readClock.2.sleep.roundsLeft deadline)
      (s.roundsLeft deadline) := by
  cases deadline with
  | past => exact absurd rfl hbefore
  | «at» time => exact roundsLeft_round_at hping hbefore
  | never => exact roundsLeft_round_never hrunning hping fun hopeless => hhope ⟨rfl, hopeless⟩

/-- Ping the server until it answers.  The wait ends without an answer when the process is seen to
have exited, or when a ping fails past the deadline; the process is then stopped.  An error that
leaves a ping ends it too, and stops nothing. -/
def awaitReady (deadline : Deadline) (s : Server) : Logged (Except Fault Unit × Server) :=
  if hrunning : s.isRunning then
    match hping : s.ping with
    | (.error fault, s) => pure (.error fault, s)
    | (.ok true, s) => do
      Logged.note .info s!"LanguageTool server ready on port {s.port}"
      return (.ok (), s)
    | (.ok false, pinged) =>
      let late := pinged.readClock.2
      if hbefore : deadline.isBefore pinged.readClock.1 then do
        let stopped ← late.stop
        return (.error (.backend (.notReady (s.timeout.spell Json.inlineWords))), stopped)
      else if hhope : deadline = .never ∧ pinged.isHopeless then
        pure (.error .endlessWait, late)
      else
        have := roundsLeft_round hrunning hping hbefore hhope
        awaitReady deadline late.sleep
  else pure (.error (.backend (.exitedDuringStartup s.exitCode?)), s)
termination_by s.roundsLeft deadline
decreasing_by exact this

def start (s : Server) : Logged (Except Fault Unit × Server) := do
  Logged.note .info
    s!"Starting LanguageTool server from {s.classpath.toText} on port {s.port}"
  match s.host.launch s.command with
  | (.error reason, host) =>
    return (.error (.backend (.cannotStart s.java reason)), { s with host })
  | (.ok id, host) =>
    let (now, s) := readClock { s with host, process := some id }
    awaitReady (.after now s.timeout) s

/-- Make sure that the server is alive and was ready once. -/
def ensureStarted (s : Server) : Logged (Except Fault Unit × Server) :=
  if s.isRunning then pure (.ok (), s)
  else match s.host.files.isFile s.classpath with
    | .ok true => s.start
    | .ok false => pure (.error (.backend (.jarNotFound s.classpath.toText)), s)
    | .error error => pure (.error (.overlong error), s)

def sendCheck (s : Server) (language text : String) :
    Logged (Except Fault (List Suggestion) × Server) :=
  if s.remote.connection.isUsable then
    let (reply, host) := s.host.exchange (s.remote.checkRequest language text)
    do return (← s.remote.conclude language text reply, { s with host })
  else pure (.error .clientClosed, s)

def check (s : Server) (language text : String) :
    Logged (Except Fault (List Suggestion) × Server) := do
  match ← s.ensureStarted with
  | (.ok (), s) => s.sendCheck language text
  | (.error fault, s) => return (.error fault, s)

def close (s : Server) : Logged Server := stop { s with remote := s.remote.close }

end Server

end ProseTrace.Checker
