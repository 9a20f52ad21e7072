/-!
# Runs of digits

Digits in a row; single underscores may stand between two of them.
-/

namespace ProseTrace.Text.DigitRun

def more (isDigit : Char → Bool) : List Char → List Char × List Char
  | '_' :: c :: rest =>
    if isDigit c then
      let (digits, rest) := more isDigit rest
      (c :: digits, rest)
    else ([], '_' :: c :: rest)
  | c :: rest =>
    if isDigit c then
      let (digits, rest) := more isDigit rest
      (c :: digits, rest)
    else ([], c :: rest)
  | [] => ([], [])

/-- The digits of a run, one at least, and what follows them. -/
def read? (isDigit : Char → Bool) : List Char → Option (List Char × List Char)
  | c :: rest =>
    if isDigit c then
      let (digits, rest) := more isDigit rest
      some (c :: digits, rest)
    else none
  | [] => none

end ProseTrace.Text.DigitRun
