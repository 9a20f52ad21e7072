import ProseTrace.Checker.Remote
import ProseTrace.Document.FileTree

/-!
# The host of a server process

The machine on which a checker server runs: its files, its processes and its clock, and the network
to the server.  How things turn out is laid down in scripts: each start of a program, each ping,
each reply to a check, how much time passes beside the sleeps, and whether a process ends while
something else is waited for.  The trace keeps all that happened, in order.
-/

namespace ProseTrace.Checker

open Document

/-- How long a process lives on its own, and whether it ignores a request to terminate. -/
structure Life where
  /-- The process exits with the code right after that many pings were answered. -/
  exit : Option (Nat × Int)
  stubborn : Bool
  deriving DecidableEq

inductive Launch where
  | refused (reason : String)
  | started (life : Life)
  deriving DecidableEq

/-- A process that was started: its life, the pings since its start, and its exit code if it is no
longer alive. -/
structure Process where
  life : Life
  pings : Nat
  exitCode : Option Int
  deriving DecidableEq

def Process.isAlive (p : Process) : Bool := p.exitCode.isNone

def Process.pingsLeft (p : Process) : Nat :=
  if p.isAlive then (p.life.exit.map fun (last, _) => last - p.pings).getD 0 else 0

def Process.afterPing (p : Process) : Process :=
  let counted := { p with pings := p.pings + 1 }
  match p.life.exit with
  | some (last, code) =>
    if counted.pings = last ∧ p.isAlive then { counted with exitCode := some code } else counted
  | none => counted

/-- The process after it was to exit with a code; one that has exited keeps its own. -/
def Process.afterExit (p : Process) (code : Int) : Process :=
  if p.isAlive then { p with exitCode := some code } else p

namespace Process

theorem pingsLeft_afterExit_le (p : Process) (code : Int) :
    (p.afterExit code).pingsLeft ≤ p.pingsLeft := by
  grind [afterExit, pingsLeft, isAlive]

theorem pingsLeft_afterPing_le (p : Process) : p.afterPing.pingsLeft ≤ p.pingsLeft := by
  cases he : p.life.exit <;> grind [afterPing, pingsLeft, isAlive]

theorem pingsLeft_afterPing_lt {p : Process} (hleft : p.afterPing.pingsLeft ≠ 0) :
    p.afterPing.pingsLeft < p.pingsLeft := by
  cases he : p.life.exit <;> grind [afterPing, pingsLeft, isAlive]

end Process

inductive Pong where
  /-- The server answers with success, or it does not, as one that cannot be reached. -/
  | heard (answered : Bool)
  /-- Another error of the client leaves the ping, as for an answer that cannot be decoded. -/
  | raised (reason : String)
  deriving DecidableEq

def Pong.result : Pong → Except Fault Bool
  | .heard answered => .ok answered
  | .raised reason => .error (.pingRaised reason)

inductive HostEvent where
  | launch (command : List String) (started : Bool)
  | exited (code : Int)
  | ping (pong : Pong)
  | sleep
  | terminate
  | wait
  | kill
  | request (request : Request)
  deriving DecidableEq

/-- A machine and what is laid down for it. -/
structure Host where
  files : FileTree
  launches : List Launch
  pings : List Pong
  replies : List Reply
  /-- How far the clock moves before each reading, beside the sleeps, in seconds; where it is set
  back, it moves by less than nothing. -/
  lapses : List Rat
  /-- Whether the process that was started last exits on its own at the next moments, and with which
  code. -/
  endings : List (Option Int)
  /-- The last reading of the clock, and the sleeps since then. -/
  clock : Rat
  processes : List Process
  trace : List HostEvent

namespace Host

def idle (files : FileTree) (launches : List Launch) (pings : List Pong) : Host :=
  ⟨files, launches, pings, [], [], [], 0, [], []⟩

def record (h : Host) (event : HostEvent) : Host := { h with trace := h.trace ++ [event] }

def exitCode? (h : Host) (id : Nat) : Option Int := h.processes[id]?.bind (·.exitCode)

def isAlive (h : Host) (id : Nat) : Bool := (h.processes[id]?.map Process.isAlive).getD false

def exit (h : Host) (id : Nat) (code : Int) : Host :=
  match h.processes[id]? with
  | some process =>
    if process.isAlive then
      record { h with processes := h.processes.set id { process with exitCode := some code } }
        (.exited code)
    else h
  | none => h

def exitLast (h : Host) (code : Int) : Host := h.exit (h.processes.length - 1) code

/-- A moment passes, in which the process that was started last may exit. -/
def pass (h : Host) : Host :=
  match h.endings with
  | [] => h
  | none :: rest => { h with endings := rest }
  | some code :: rest => exitLast { h with endings := rest } code

/-- Without a script a program starts, and lives until it is told to terminate. -/
def plainLaunch : Launch := .started ⟨none, false⟩

def launch (h : Host) (command : List String) : Except String Nat × Host :=
  let next := { h with launches := h.launches.tail }
  match h.launches.headD plainLaunch with
  | .refused reason => (.error reason, next.record (.launch command false))
  | .started life =>
    (.ok h.processes.length,
      (record { next with processes := h.processes ++ [⟨life, 0, none⟩] }
        (.launch command true)).pass)

def countPing (h : Host) (id : Nat) : Host :=
  match h.processes[id]? with
  | some process =>
    let counted := { process with pings := process.pings + 1 }
    let h := { h with processes := h.processes.set id counted }
    match process.life.exit with
    | some (last, code) => if counted.pings = last then h.exit id code else h
    | none => h
  | none => h

/-- Ask a process whether it is there; without a script it is not. -/
def ping (h : Host) (id : Nat) : Pong × Host :=
  let pong := h.pings.headD (.heard false)
  (pong, ((record { h with pings := h.pings.tail } (.ping pong)).countPing id).pass)

def readClock (h : Host) : Rat × Host :=
  let now := h.clock + h.lapses.headD 0
  (now, { h with lapses := h.lapses.tail, clock := now })

def pingsLeft (h : Host) (id : Nat) : Nat := ((h.processes[id]?).map Process.pingsLeft).getD 0

/-- The pings that can still turn out in more than one way: those of the script, those at which a
process may exit, and those up to the exit of a process. -/
def suspense (h : Host) (id : Nat) : Nat :=
  h.pings.length + h.endings.length + h.pingsLeft id

def sleepTime : Rat := 1 / 4

def sleep (h : Host) : Host := (record { h with clock := h.clock + sleepTime } .sleep).pass

def isStubborn (h : Host) (id : Nat) : Bool :=
  (h.processes[id]?.map (·.life.stubborn)).getD false

/-- Ask a process to terminate; unless it is stubborn it exits with -15. -/
def terminate (h : Host) (id : Nat) : Host :=
  let h := h.record .terminate
  if h.isStubborn id then h else h.exit id (-15)

def wait (h : Host) (id : Nat) : Bool × Host :=
  let later := (h.record .wait).pass
  (!later.isAlive id, later)

def kill (h : Host) (id : Nat) : Host := (h.record .kill).exit id (-9)

/-- Send a request and take the reply; without a script the connection fails. -/
def exchange (h : Host) (request : Request) : Reply × Host :=
  (h.replies.headD Session.noReply,
    (record { h with replies := h.replies.tail } (.request request)).pass)

theorem readClock_of_lapses_eq_nil {h : Host} (hlapses : h.lapses = []) :
    h.readClock.1 = h.clock := by
  show h.clock + h.lapses.headD 0 = h.clock
  rw [hlapses]
  exact Rat.add_zero h.clock

/-! An operation changes the processes, the trace and what it takes from the scripts, and leaves
the rest as it was. -/

theorem exit_eq (h : Host) (id : Nat) (code : Int) :
    ∃ processes trace, h.exit id code = { h with processes, trace } := by
  unfold exit
  split
  · split
    · exact ⟨_, _, rfl⟩
    · exact ⟨_, _, rfl⟩
  · exact ⟨_, _, rfl⟩

theorem pass_eq (h : Host) :
    ∃ processes trace, h.pass = { h with endings := h.endings.tail, processes, trace } := by
  unfold pass
  split
  next he => exact ⟨h.processes, h.trace, by cases h; cases he; rfl⟩
  next he => exact ⟨h.processes, h.trace, by rw [he]; rfl⟩
  next he => rw [he]; exact exit_eq _ _ _

theorem countPing_eq (h : Host) (id : Nat) :
    ∃ processes trace, h.countPing id = { h with processes, trace } := by
  unfold countPing
  split
  · dsimp only
    split
    · split
      · exact exit_eq _ _ _
      · exact ⟨_, _, rfl⟩
    · exact ⟨_, _, rfl⟩
  · exact ⟨_, _, rfl⟩

theorem ping_eq (h : Host) (id : Nat) :
    ∃ processes trace, (h.ping id).2 =
      { h with pings := h.pings.tail, endings := h.endings.tail, processes, trace } := by
  obtain ⟨_, _, hcount⟩ :=
    countPing_eq (record { h with pings := h.pings.tail } (.ping (h.pings.headD (.heard false)))) id
  obtain ⟨processes, trace, hpass⟩ := pass_eq
    ((record { h with pings := h.pings.tail } (.ping (h.pings.headD (.heard false)))).countPing id)
  exact ⟨processes, trace, hpass.trans (by rw [hcount]; rfl)⟩

theorem sleep_eq (h : Host) :
    ∃ processes trace, h.sleep =
      { h with clock := h.clock + sleepTime, endings := h.endings.tail, processes, trace } :=
  pass_eq _

@[simp] theorem clock_ping (h : Host) (id : Nat) : (h.ping id).2.clock = h.clock := by
  obtain ⟨_, _, hping⟩ := h.ping_eq id
  rw [hping]

@[simp] theorem lapses_ping (h : Host) (id : Nat) : (h.ping id).2.lapses = h.lapses := by
  obtain ⟨_, _, hping⟩ := h.ping_eq id
  rw [hping]

@[simp] theorem clock_sleep (h : Host) : h.sleep.clock = h.clock + sleepTime := by
  obtain ⟨_, _, hsleep⟩ := h.sleep_eq
  rw [hsleep]

@[simp] theorem lapses_sleep (h : Host) : h.sleep.lapses = h.lapses := by
  obtain ⟨_, _, hsleep⟩ := h.sleep_eq
  rw [hsleep]

theorem modify_of_getElem? {l : List Process} {id : Nat} {p : Process} (f : Process → Process)
    (hp : l[id]? = some p) : l.modify id f = l.set id (f p) := by
  refine List.ext_getElem? fun other => ?_
  rw [List.getElem?_modify, List.getElem?_set']
  by_cases hid : id = other
  · subst hid; simp [hp]
  · simp [hid]

theorem processes_exit (h : Host) (id : Nat) (code : Int) :
    (h.exit id code).processes = h.processes.modify id (·.afterExit code) := by
  cases hp : h.processes[id]? with
  | none =>
    have hid : h.processes.length ≤ id := List.getElem?_eq_none_iff.1 hp
    rw [exit, hp, List.modify_eq_self hid]
  | some p =>
    obtain ⟨hid, rfl⟩ := List.getElem?_eq_some_iff.1 hp
    rw [exit, hp, modify_of_getElem? _ hp]
    dsimp only
    unfold Process.afterExit
    split
    · rfl
    · exact (List.set_getElem_self hid).symm

theorem processes_countPing (h : Host) (id : Nat) :
    (h.countPing id).processes = h.processes.modify id Process.afterPing := by
  cases hp : h.processes[id]? with
  | none =>
    have hid : h.processes.length ≤ id := List.getElem?_eq_none_iff.1 hp
    rw [countPing, hp, List.modify_eq_self hid]
  | some p =>
    have hid : id < h.processes.length := (List.getElem?_eq_some_iff.1 hp).1
    rw [countPing, hp, modify_of_getElem? _ hp]
    dsimp only
    unfold Process.afterPing
    split
    next last code he =>
      split
      next hlast =>
        rw [processes_exit, modify_of_getElem? _ (List.getElem?_set_self hid), List.set_set]
        simp [hlast, Process.afterExit, Process.isAlive]
      next hlast => simp [hlast]
    next => rfl

theorem isAlive_of_isAlive_exit {h : Host} {id other : Nat} {code : Int}
    (halive : (h.exit id code).isAlive other = true) : h.isAlive other = true := by
  unfold isAlive at halive ⊢
  rw [processes_exit, List.getElem?_modify] at halive
  cases hp : h.processes[other]? with
  | none => simp [hp] at halive
  | some p => by_cases hid : id = other <;> grind [Process.afterExit, Process.isAlive]

theorem isAlive_of_isAlive_pass {h : Host} {id : Nat} (halive : h.pass.isAlive id = true) :
    h.isAlive id = true := by
  unfold pass at halive
  split at halive
  · exact halive
  · exact halive
  next code rest _ => exact isAlive_of_isAlive_exit (h := { h with endings := rest }) halive

theorem isAlive_of_isAlive_sleep {h : Host} {id : Nat} (halive : h.sleep.isAlive id = true) :
    h.isAlive id = true :=
  isAlive_of_isAlive_pass (h := record { h with clock := h.clock + sleepTime } .sleep) halive

theorem pingsLeft_exit_le (h : Host) (id other : Nat) (code : Int) :
    (h.exit id code).pingsLeft other ≤ h.pingsLeft other := by
  unfold pingsLeft
  rw [processes_exit, List.getElem?_modify]
  cases h.processes[other]? with
  | none => exact Nat.le_refl _
  | some p =>
    by_cases hid : id = other
    · simp only [hid, if_true, Option.map_eq_map, Option.map_some, Option.getD_some]
      exact p.pingsLeft_afterExit_le code
    · simp only [hid, if_false, Option.map_eq_map, Option.map_some, Option.getD_some,
        Nat.le_refl]

theorem pingsLeft_pass_le (h : Host) (id : Nat) : h.pass.pingsLeft id ≤ h.pingsLeft id := by
  unfold pass; split
  · exact Nat.le_refl _
  · exact Nat.le_refl _
  · exact pingsLeft_exit_le _ _ _ _

theorem pingsLeft_countPing (h : Host) (id : Nat) :
    (h.countPing id).pingsLeft id =
      ((h.processes[id]?).map fun p => p.afterPing.pingsLeft).getD 0 := by
  unfold pingsLeft
  rw [processes_countPing, List.getElem?_modify]
  simp [Function.comp_def]

theorem suspense_sleep_le (h : Host) (id : Nat) : h.sleep.suspense id ≤ h.suspense id := by
  have hleft : h.sleep.pingsLeft id ≤ h.pingsLeft id := pingsLeft_pass_le _ id
  obtain ⟨_, _, hsleep⟩ := h.sleep_eq
  unfold suspense
  rw [hsleep] at hleft ⊢
  simp only [List.length_tail]
  omega

theorem pingsLeft_ping_le (h : Host) (id : Nat) :
    (h.ping id).2.pingsLeft id ≤
      ((h.processes[id]?).map fun p => p.afterPing.pingsLeft).getD 0 := by
  have hleft := pingsLeft_pass_le
    ((record { h with pings := h.pings.tail }
      (.ping (h.pings.headD (.heard false)))).countPing id) id
  rw [pingsLeft_countPing] at hleft
  exact hleft

theorem suspense_ping_le_add (h : Host) (id : Nat) :
    (h.ping id).2.suspense id ≤ h.pings.length - 1 + (h.endings.length - 1) +
      ((h.processes[id]?).map fun p => p.afterPing.pingsLeft).getD 0 := by
  have hleft := pingsLeft_ping_le h id
  obtain ⟨_, _, hping⟩ := h.ping_eq id
  unfold suspense
  rw [hping] at hleft ⊢
  simp only [List.length_tail]
  omega

theorem suspense_ping_le (h : Host) (id : Nat) : (h.ping id).2.suspense id ≤ h.suspense id := by
  refine Nat.le_trans (h.suspense_ping_le_add id) ?_
  unfold suspense pingsLeft
  cases h.processes[id]? with
  | none => simp; omega
  | some p => have := p.pingsLeft_afterPing_le; simp; omega

theorem suspense_ping_lt {h : Host} {id : Nat} (hleft : (h.ping id).2.suspense id ≠ 0) :
    (h.ping id).2.suspense id < h.suspense id := by
  have hping := h.suspense_ping_le_add id
  generalize (h.ping id).2.suspense id = left at hleft hping
  unfold suspense pingsLeft
  cases hp : h.processes[id]? with
  | none => simp_all; omega
  | some p =>
    have hle := p.pingsLeft_afterPing_le
    have hlt := Process.pingsLeft_afterPing_lt (p := p)
    simp_all
    omega

end Host

end ProseTrace.Checker
