import ProseTrace.Checker.Host
import ProseTrace.Decimal.Binary64

/-!
# Deadlines

A deadline is the sum of a time and a timeout, rounded to a binary64 value; an infinite timeout has
no time that it ends at.  A wait that sleeps between its looks at the clock passes a deadline after
a bounded number of sleeps.
-/

namespace ProseTrace.Checker

open Decimal

inductive Deadline where
  | past
  | at (time : Rat)
  | never
  deriving DecidableEq

namespace Deadline

def ofValue (value : Binary64) : Deadline :=
  match value.toRat? with
  | some time => .at time
  | none => if value = .infinite true then .past else .never

def after (time : Rat) (timeout : Binary64) : Deadline :=
  match timeout.toRat? with
  | some seconds => ofValue (.ofRat (time + seconds))
  | none => ofValue timeout

def isBefore (now : Rat) : Deadline → Bool
  | .past => true
  | .at time => time < now
  | .never => false

/-- The quarters of a second from a time up to a deadline, counted from one. -/
def quartersLeft (deadline time : Rat) : Nat := (((deadline - time) * 4).floor + 1).toNat

theorem quartersLeft_sleep {deadline before now : Rat} (hb : before ≤ now) (hd : now ≤ deadline) :
    quartersLeft deadline (now + Host.sleepTime) < quartersLeft deadline before := by
  have hstep : (deadline - (now + Host.sleepTime)) * 4 = (deadline - now) * 4 - (1 : Int) := by
    simp only [Host.sleepTime]; grind
  have hfloor :
      ((deadline - (now + Host.sleepTime)) * 4).floor = ((deadline - now) * 4).floor - 1 := by
    rw [hstep]
    have := Rat.floor_sub_one (x := (deadline - now) * 4)
    simpa using this
  have hnonneg : 0 ≤ ((deadline - now) * 4).floor := Rat.le_floor_iff.2 (by grind)
  have hmono : ((deadline - now) * 4).floor ≤ ((deadline - before) * 4).floor :=
    Rat.floor_monotone (by grind)
  unfold quartersLeft
  omega

@[simp] theorem isBefore_at {now time : Rat} :
    (Deadline.at time).isBefore now = true ↔ time < now := by
  simp [isBefore]

end Deadline

end ProseTrace.Checker
