import ProseTrace.Decimal.Binary64

/-!
# Shortest decimal digits

Of the decimal fractions that round to a given binary64 value, the shortest has the fewest digits;
among several of that length it is the one nearest to the value.  Every grid of decimal fractions
with one, two, … digits is tried in turn at the value's two neighbours on it.
-/

namespace ProseTrace.Decimal

structure Fraction where
  coefficient : Nat
  power : Int
  deriving DecidableEq

namespace Shortest

/-- A positive magnitude `middle · unit` with the ends of the interval that rounds to it, in
quarters of the last binary place; `unit` is `unitNum / unitDen`. -/
structure Interval where
  low : Nat
  middle : Nat
  high : Nat
  inclusive : Bool
  unitNum : Nat
  unitDen : Nat

/-- Half the way to either neighbour; below a power of two the neighbour is twice as near. -/
def Interval.of (significand : Nat) (exponent : Int) : Interval where
  low := 4 * significand -
    (if significand = Binary64.leastNormal ∧ Binary64.minExponent < exponent then 1 else 2)
  middle := 4 * significand
  high := 4 * significand + 2
  inclusive := significand % 2 == 0
  unitNum := 1 <<< (exponent - 2).toNat
  unitDen := 1 <<< (2 - exponent).toNat

def Interval.admits (i : Interval) (f : Fraction) : Bool :=
  let point := f.coefficient * Nat.pow 10 f.power.toNat * i.unitDen
  let scale := i.unitNum * Nat.pow 10 (-f.power).toNat
  if i.inclusive then i.low * scale ≤ point && point ≤ i.high * scale
  else i.low * scale < point && point < i.high * scale

/-- The greatest multiple of `10 ^ power` not above the middle, in such multiples. -/
def Interval.below (i : Interval) (power : Int) : Nat :=
  i.middle * i.unitNum * Nat.pow 10 (-power).toNat / (i.unitDen * Nat.pow 10 power.toNat)

/-- The middle is nearer to `n + 1` than to `n` multiples of `10 ^ power`, or as near and `n` is
odd. -/
def Interval.leansUp (i : Interval) (n : Nat) (power : Int) : Bool :=
  let twice := 2 * (i.middle * i.unitNum * Nat.pow 10 (-power).toNat)
  let halfway := (2 * n + 1) * (i.unitDen * Nat.pow 10 power.toNat)
  halfway < twice || (halfway == twice && n % 2 == 1)

/-- The point of the grid of multiples of `10 ^ power` that stands for the interval, if any does. -/
def Interval.onGrid? (i : Interval) (power : Int) : Option Fraction :=
  let n := i.below power
  let down : Fraction := ⟨n, power⟩
  let up : Fraction := ⟨n + 1, power⟩
  if i.admits down && i.admits up then some (if i.leansUp n power then up else down)
  else if i.admits down then some down
  else if i.admits up then some up
  else none

/-- The number of zeros between the point and the first digit of `num / den`, a proper fraction,
looking at no more than `fuel` places. -/
def leadingZeros : (fuel num den : Nat) → Nat
  | 0, _, _ => 0
  | fuel + 1, num, den => if den ≤ num * 10 then 0 else leadingZeros fuel (num * 10) den + 1

/-- The number of digits in front of the point, counted down from zero for a value below a tenth. -/
def Interval.digitsBeforePoint (i : Interval) : Int :=
  let num := i.middle * i.unitNum
  if i.unitDen ≤ num then ((Nat.toDigits 10 (num / i.unitDen)).length : Int)
  else -(leadingZeros 400 num i.unitDen : Int)

/-- Zeros at the end of a coefficient moved into the power. -/
def stripZeros : (fuel : Nat) → Fraction → Fraction
  | 0, f => f
  | fuel + 1, f =>
    if f.coefficient % 10 = 0 ∧ f.coefficient ≠ 0 then
      stripZeros fuel ⟨f.coefficient / 10, f.power + 1⟩
    else f

end Shortest

/-- The shortest decimal fraction that rounds to `significand · 2 ^ exponent`.  Seventeen digits
always suffice. -/
def shortest (significand : Nat) (exponent : Int) : Fraction :=
  if significand = 0 then ⟨0, 0⟩
  else
    let interval := Shortest.Interval.of significand exponent
    let point := interval.digitsBeforePoint
    let found := (List.range 17).findSome? fun n => interval.onGrid? (point - (n + 1 : Nat))
    Shortest.stripZeros 20 (found.getD ⟨interval.below (point - 17), point - 17⟩)

end ProseTrace.Decimal
