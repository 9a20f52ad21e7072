import ProseTrace.Decimal.Shortest

/-!
# Spelling binary64 values

A finite value is written with its shortest digits: positionally, with at least one place after the
point, for decimal exponents from -4 to 15, and otherwise in scientific form with a signed exponent
of at least two digits.
-/

namespace ProseTrace.Decimal

structure Words where
  infinity : String
  nan : String

/-- The number `± 0.d₁d₂… · 10 ^ point` with these digits. -/
def spellDigits (digits : String) (point : Int) : String :=
  let count := digits.length
  let exponent := point - 1
  if -4 ≤ exponent ∧ exponent < 16 then
    if point ≤ 0 then "0." ++ String.ofList (List.replicate (-point).toNat '0') ++ digits
    else
      let whole := point.toNat
      if count ≤ whole then digits ++ String.ofList (List.replicate (whole - count) '0') ++ ".0"
      else
        String.ofList (digits.toList.take whole) ++ "." ++ String.ofList (digits.toList.drop whole)
  else
    let head := String.ofList (digits.toList.take 1)
    let tail := String.ofList (digits.toList.drop 1)
    let mantissa := if tail.isEmpty then head else head ++ "." ++ tail
    let size := toString exponent.natAbs
    let padded := if size.length < 2 then "0" ++ size else size
    mantissa ++ "e" ++ (if exponent < 0 then "-" else "+") ++ padded

def Binary64.spell (words : Words) : Binary64 → String
  | .nan => words.nan
  | .infinite negative => (if negative then "-" else "") ++ words.infinity
  | .finite negative significand exponent =>
    let sign := if negative then "-" else ""
    if significand = 0 then sign ++ "0.0"
    else
      let f := shortest significand exponent
      let digits := toString f.coefficient
      sign ++ spellDigits digits (digits.length + f.power)

end ProseTrace.Decimal
