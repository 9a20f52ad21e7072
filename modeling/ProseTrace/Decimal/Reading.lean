import ProseTrace.Decimal.Binary64
import ProseTrace.Text.DigitRun
import ProseTrace.Text.Numeral

/-!
# Reading binary64 values

A value is written with digits of any script, a point among or beside them and an exponent, or with
one of the words `inf`, `infinity` and `nan` in letters of either case.  Single underscores may
stand between digits, and the white space of integers around the whole.
-/

namespace ProseTrace.Decimal.Reading

open Text

def plainDigit (c : Char) : Char :=
  match decimalDigit? c with
  | some d => Char.ofNat ('0'.toNat + d)
  | none => c

private def digits (input : List Char) : List Char × List Char :=
  (DigitRun.read? Char.isDigit input).getD ([], input)

private def valueOf (digits : List Char) : Nat :=
  Numeral.ofDigits (digits.map fun c => c.toNat - '0'.toNat)

/-- A sign, if there is one; true for a minus. -/
def sign : List Char → Bool × List Char
  | '-' :: rest => (true, rest)
  | '+' :: rest => (false, rest)
  | input => (false, input)

/-- The exponent that the whole input writes; nothing stands for zero. -/
def exponent? : List Char → Option Int
  | [] => some 0
  | mark :: rest =>
    if mark == 'e' || mark == 'E' then
      let (negative, rest) := sign rest
      match digits rest with
      | ([], _) => none
      | (ds, []) => some (if negative then -(valueOf ds : Int) else valueOf ds)
      | _ => none
    else none

/-- A number behind its sign, with a digit on one side of the point at least. -/
def magnitude? (negative : Bool) (input : List Char) : Option Binary64 :=
  let (whole, rest) := digits input
  let (places, rest) := match rest with
    | '.' :: rest => digits rest
    | _ => ([], rest)
  if whole.isEmpty && places.isEmpty then none
  else do
    let power ← exponent? rest
    return .ofDecimal negative (valueOf (whole ++ places)) (power - places.length)

def word? (negative : Bool) (input : List Char) : Option Binary64 :=
  match String.ofList (input.map Char.toLower) with
  | "inf" => some (.infinite negative)
  | "infinity" => some (.infinite negative)
  | "nan" => some .nan
  | _ => none

end ProseTrace.Decimal.Reading

namespace ProseTrace.Decimal

open Text

def Binary64.ofText? (text : String) : Option Binary64 :=
  let (negative, rest) := Reading.sign ((Numeral.trimmed text.toList).map Reading.plainDigit)
  Reading.magnitude? negative rest <|> Reading.word? negative rest

end ProseTrace.Decimal
