/-!
# Punycode

A text as letters, digits and hyphens of ASCII (RFC 3492).  Its ASCII characters come first; the
others follow as steps through all pairs of a code point and a position, written in digits of base
36 whose weights adapt to the steps before.
-/

namespace ProseTrace.Url.Domain.Punycode

/-- The least value of a digit that another one follows, at a position counted from zero. -/
def threshold (bias position : Nat) : Nat := min 26 (max 1 (36 * (position + 1) - bias))

theorem one_le_threshold (bias position : Nat) : 1 ≤ threshold bias position := by
  unfold threshold; omega

private def shrink (delta steps : Nat) : Nat × Nat :=
  if 455 < delta then shrink (delta / 35) (steps + 1) else (delta, steps)
termination_by delta

def adapt (isFirst : Bool) (step count : Nat) : Nat :=
  let scaled := if isFirst then step / 700 else step / 2
  let (delta, steps) := shrink (scaled + scaled / count) 0
  36 * steps + 36 * delta / (delta + 38)

def digit (value : Nat) : Char := Char.ofNat (if value < 26 then 97 + value else 22 + value)

def digitValue? (c : Char) : Option Nat :=
  if c.isLower then some (c.toNat - 97) else if c.isDigit then some (c.toNat - 22) else none

theorem rest_lt {n bias position : Nat} (h : ¬ n < threshold bias position) :
    (n - threshold bias position) / (36 - threshold bias position) < n := by
  have := one_le_threshold bias position
  exact Nat.lt_of_le_of_lt (Nat.div_le_self _ _) (by omega)

def digits (bias position n : Nat) : List Char :=
  if h : n < threshold bias position then [digit n]
  else
    let base := 36 - threshold bias position
    have := rest_lt h
    digit (threshold bias position + (n - threshold bias position) % base) ::
      digits bias (position + 1) ((n - threshold bias position) / base)
termination_by n

/-- An encoding on its way: what is written, the step in the making, the bias, and the number of
characters that were written before the first step and by now. -/
structure Draft where
  written : List Char
  step : Nat
  bias : Nat
  basic : Nat
  count : Nat

/-- Pass a character on the way to a code point; that character itself ends a step. -/
def Draft.pass (d : Draft) (point : Nat) (c : Char) : Draft :=
  if c.toNat < point then { d with step := d.step + 1 }
  else if c.toNat = point then
    { d with
      written := d.written ++ digits d.bias 0 d.step
      step := 0
      bias := adapt (d.count == d.basic) d.step (d.count + 1)
      count := d.count + 1 }
  else d

/-- Pass the whole text for each of the code points, in ascending order. -/
def Draft.passAll (text : List Char) (start : Nat) (d : Draft) : List Nat → Draft
  | [] => d
  | point :: rest =>
    let reached := { d with step := d.step + (point - start) * (d.count + 1) }
    let passed := text.foldl (·.pass point) reached
    passAll text (point + 1) { passed with step := passed.step + 1 } rest

private def isBasic (c : Char) : Bool := c.toNat < 0x80

def encode (text : List Char) : List Char :=
  let basic := text.filter isBasic
  let points := ((text.filter (!isBasic ·)).map Char.toNat).mergeSort.eraseDups
  let head := if basic.isEmpty then [] else basic ++ ['-']
  (Draft.passAll text 0x80 ⟨head, 0, 72, basic.length, basic.length⟩ points).written

/-- The step at the start of the input, and what follows its last digit. -/
def readStep? (bias position weight : Nat) : List Char → Option (Nat × List Char)
  | [] => none
  | c :: rest => do
    let value ← digitValue? c
    let least := threshold bias position
    if value < least then return (value * weight, rest)
    else
      let (more, rest) ← readStep? bias (position + 1) (weight * (36 - least)) rest
      return (value * weight + more, rest)

/-- Insert the characters that the steps lead to; each step takes a digit at least. -/
def insertAll : (fuel : Nat) → (text : List Char) → (point place bias : Nat) → (isFirst : Bool) →
    List Char → Option (List Char)
  | _, text, _, _, _, _, [] => some text
  | 0, _, _, _, _, _, _ => none
  | fuel + 1, text, point, place, bias, isFirst, input => do
    let (step, rest) ← readStep? bias 0 1 input
    let count := text.length + 1
    let point := point + (place + step) / count
    let place := (place + step) % count
    if point.isValidChar then
      insertAll fuel (text.insertIdx place (Char.ofNat point)) point (place + 1)
        (adapt isFirst step count) false rest
    else none

/-- The text that was encoded.  The hyphen in front of the steps is there only behind characters of
ASCII, so that no two encodings stand for one text. -/
def decode? (input : List Char) : Option (List Char) :=
  let steps := (input.reverse.takeWhile (· != '-')).reverse
  let basic := input.take (input.length - steps.length)
  if basic = ['-'] then none else insertAll steps.length basic.dropLast 0x80 0 72 true steps

end ProseTrace.Url.Domain.Punycode
