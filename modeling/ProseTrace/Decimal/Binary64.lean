/-!
# Binary64 values

Numbers of the binary64 format, kept as sign, significand and power of two, with the exact rounding
of a decimal fraction to the nearest of them (a tie goes to the even significand).
-/

namespace ProseTrace.Decimal

/-- A binary64 value; the finite one is `± significand · 2 ^ exponent`. -/
inductive Binary64 where
  | finite (negative : Bool) (significand : Nat) (exponent : Int)
  | infinite (negative : Bool)
  | nan
  deriving DecidableEq

namespace Binary64

def minExponent : Int := -1074

def maxExponent : Int := 971

/-- The least significand of a finite value above the least power of two. -/
def leastNormal : Nat := 1 <<< 52

def signedZero (negative : Bool) : Binary64 := .finite negative 0 minExponent

/-- The quotient of naturals, a tie to the even one. -/
def divideToEven (num den : Nat) : Nat :=
  let whole := num / den
  let twice := 2 * (num % den)
  if den < twice || (twice == den && whole % 2 == 1) then whole + 1 else whole

/-- The greatest power of two not above the quotient of two positive naturals. -/
def floorLog2 (num den : Nat) : Int :=
  let estimate : Int := (num.log2 : Int) - den.log2
  let reaches :=
    if 0 ≤ estimate then den <<< estimate.toNat ≤ num else den ≤ num <<< (-estimate).toNat
  if reaches then estimate else estimate - 1

def ofQuotient (negative : Bool) (num den : Nat) : Binary64 :=
  if num = 0 then signedZero negative
  else
    let exponent := max (floorLog2 num den - 52) minExponent
    let rounded :=
      if 0 ≤ exponent then divideToEven num (den <<< exponent.toNat)
      else divideToEven (num <<< (-exponent).toNat) den
    let (significand, exponent) :=
      if rounded = 2 * leastNormal then (leastNormal, exponent + 1) else (rounded, exponent)
    if maxExponent < exponent then .infinite negative
    else .finite negative significand exponent

/-- The value nearest to `± coefficient · 10 ^ power`.  Powers far outside the range of the format
are settled without being computed. -/
def ofDecimal (negative : Bool) (coefficient : Nat) (power : Int) : Binary64 :=
  let magnitude : Int := (Nat.toDigits 10 coefficient).length + power
  if coefficient = 0 || magnitude < -400 then signedZero negative
  else if 400 < magnitude then .infinite negative
  else if 0 ≤ power then ofQuotient negative (coefficient * Nat.pow 10 power.toNat) 1
  else ofQuotient negative coefficient (Nat.pow 10 (-power).toNat)

def isZero : Binary64 → Bool
  | .finite _ significand _ => significand == 0
  | _ => false

def toRat? : Binary64 → Option Rat
  | .finite negative significand exponent =>
    let magnitude : Rat := (significand : Rat) * (2 : Rat) ^ exponent
    some (if negative then -magnitude else magnitude)
  | _ => none

def ofRat (q : Rat) : Binary64 := ofQuotient (q < 0) q.num.natAbs q.den

def integerPart (significand : Nat) (exponent : Int) : Nat :=
  if 0 ≤ exponent then significand <<< exponent.toNat else significand >>> (-exponent).toNat

end Binary64

end ProseTrace.Decimal
