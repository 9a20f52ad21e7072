import ProseTrace.Config.Toml.Lexical
import ProseTrace.Config.Value
import ProseTrace.Text.DigitRun
import ProseTrace.Text.Numeral

/-!
# Numbers, dates and times of TOML

Digits may be parted by single underscores.  Integers are written in base ten without leading
zeros, or behind `0x`, `0o` or `0b`; a fraction or an exponent makes a binary64 number.  Dates and
times are checked against the calendar, and keep their written form.
-/

namespace ProseTrace.Config.Toml

open Text

inductive Fault where
  | malformed
  | tooLong (error : Numeral.TooLong)
  | tooDeep
  deriving DecidableEq

/-- What cannot be read at all is malformed. -/
instance : MonadLift Option (Except Fault) where
  monadLift x := x.elim (.error .malformed) .ok

def digitsValue (base : Nat) (digits : List Char) : Nat :=
  digits.foldl (fun n c => base * n + (hexValue? [c]).getD 0) 0

private def isHex (c : Char) : Bool := (hexValue? [c]).isSome

def based? : List Char → Option (Value × List Char)
  | '0' :: 'x' :: rest =>
    (DigitRun.read? isHex rest).map fun (ds, rest) => (.integer (digitsValue 16 ds), rest)
  | '0' :: 'o' :: rest =>
    (DigitRun.read? (fun c => '0' ≤ c && c ≤ '7') rest).map fun (ds, rest) =>
      (.integer (digitsValue 8 ds), rest)
  | '0' :: 'b' :: rest =>
    (DigitRun.read? (fun c => c == '0' || c == '1') rest).map fun (ds, rest) =>
      (.integer (digitsValue 2 ds), rest)
  | _ => none

/-- A sign, if there is one; true for a minus. -/
def sign : List Char → Bool × List Char
  | '-' :: rest => (true, rest)
  | '+' :: rest => (false, rest)
  | input => (false, input)

private def whole? : List Char → Option (List Char × List Char)
  | '0' :: rest => some (['0'], rest)
  | input => DigitRun.read? Char.isDigit input

private def fraction (input : List Char) : List Char × List Char :=
  match input with
  | '.' :: rest => (DigitRun.read? Char.isDigit rest).getD ([], input)
  | _ => ([], input)

private def exponent (input : List Char) : Option Int × List Char :=
  match input with
  | mark :: rest =>
    if mark == 'e' || mark == 'E' then
      let (negative, rest) := sign rest
      match DigitRun.read? Char.isDigit rest with
      | some (ds, rest) =>
        let size : Int := digitsValue 10 ds
        (some (if negative then -size else size), rest)
      | none => (none, input)
    else (none, input)
  | [] => (none, input)

def integer (negative : Bool) (digits : List Char) : Except Fault Value :=
  if Numeral.maxDigits < digits.length then .error (.tooLong ⟨some digits.length⟩)
  else
    let size : Int := digitsValue 10 digits
    .ok (.integer (if negative then -size else size))

def decimal? (input : List Char) : Option (Except Fault Value × List Char) := do
  let (negative, rest) := sign input
  let (whole, rest) ← whole? rest
  let (places, rest) := fraction rest
  let (power, rest) := exponent rest
  if places.isEmpty && power.isNone then return (integer negative whole, rest)
  else
    let coefficient := digitsValue 10 (whole ++ places)
    return (.ok (.float (.ofDecimal negative coefficient (power.getD 0 - places.length))), rest)

def wordNumber? (input : List Char) : Option (Value × List Char) :=
  let (negative, rest) := sign input
  match rest with
  | 'i' :: 'n' :: 'f' :: rest => some (.float (.infinite negative), rest)
  | 'n' :: 'a' :: 'n' :: rest => some (.float .nan, rest)
  | _ => none

def twoDigits? (low high : Nat) : List Char → Option (Nat × List Char)
  | a :: b :: rest =>
    if a.isDigit && b.isDigit then
      let n := digitsValue 10 [a, b]
      if low ≤ n && n ≤ high then some (n, rest) else none
    else none
  | _ => none

private def expect? (c : Char) : List Char → Option (List Char)
  | d :: rest => if c == d then some rest else none
  | [] => none

def time? (input : List Char) : Option (List Char) := do
  let (_, rest) ← twoDigits? 0 23 input
  let (_, rest) ← twoDigits? 0 59 (← expect? ':' rest)
  let (_, rest) ← twoDigits? 0 59 (← expect? ':' rest)
  match rest with
  | '.' :: more =>
    match more.takeWhile Char.isDigit with
    | [] => return rest
    | _ => return more.dropWhile Char.isDigit
  | _ => return rest

def skipOffset (input : List Char) : List Char :=
  match input with
  | 'Z' :: rest => rest
  | 'z' :: rest => rest
  | mark :: rest =>
    let offset : Option (List Char) := do
      let (_, rest) ← twoDigits? 0 23 rest
      let (_, rest) ← twoDigits? 0 59 (← expect? ':' rest)
      return rest
    if mark == '+' || mark == '-' then offset.getD input else input
  | [] => []

def skipTime (input : List Char) : List Char :=
  match input with
  | mark :: rest =>
    if mark == 'T' || mark == 't' || mark == ' ' then
      match time? rest with
      | some rest => skipOffset rest
      | none => input
    else input
  | [] => []

def isDay (year month day : Nat) : Bool :=
  let isLeap := year % 4 == 0 && (year % 100 != 0 || year % 400 == 0)
  let length :=
    if month == 2 then (if isLeap then 29 else 28)
    else if month == 4 || month == 6 || month == 9 || month == 11 then 30
    else 31
  1 ≤ year && day ≤ length

def date? (input : List Char) : Option ((Nat × Nat × Nat) × List Char) := do
  let (high, rest) ← twoDigits? 0 99 input
  let (low, rest) ← twoDigits? 0 99 rest
  let (month, rest) ← twoDigits? 1 12 (← expect? '-' rest)
  let (day, rest) ← twoDigits? 1 31 (← expect? '-' rest)
  return ((100 * high + low, month, day), rest)

private def written (input rest : List Char) : Value :=
  .moment (String.ofList (input.take (input.length - rest.length)))

def plainValue (input : List Char) : Except Fault (Value × List Char) :=
  match date? input with
  | some ((year, month, day), rest) =>
    if isDay year month day then
      let rest := skipTime rest
      .ok (written input rest, rest)
    else .error .malformed
  | none =>
    match time? input, based? input <|> wordNumber? input with
    | some rest, _ => .ok (written input rest, rest)
    | none, some number => .ok number
    | none, none => do
      let (number, rest) ← decimal? input
      return (← number, rest)

end ProseTrace.Config.Toml
