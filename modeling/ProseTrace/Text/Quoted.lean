import ProseTrace.Text.Printable

/-!
# Quoted text

How messages show a text: between single quotes, or between double quotes if it holds a single quote
and no double one.  The quote and the backslash are escaped, as are characters that do not print.
-/

namespace ProseTrace.Text.Quoted

def quoteOf (text : List Char) : Char :=
  if text.contains '\'' && !text.contains '"' then '"' else '\''

private def hexDigits (width n : Nat) : List Char :=
  let digits := Nat.toDigits 16 n
  List.replicate (width - digits.length) '0' ++ digits

def escape (quote c : Char) : List Char :=
  if c == '\\' || c == quote then ['\\', c]
  else if c == '\n' then ['\\', 'n']
  else if c == '\r' then ['\\', 'r']
  else if c == '\t' then ['\\', 't']
  else if isPrintable c then [c]
  else if c.toNat < 0x100 then '\\' :: 'x' :: hexDigits 2 c.toNat
  else if c.toNat < 0x10000 then '\\' :: 'u' :: hexDigits 4 c.toNat
  else '\\' :: 'U' :: hexDigits 8 c.toNat

def quote (text : String) : String :=
  let mark := quoteOf text.toList
  String.ofList (mark :: text.toList.flatMap (escape mark) ++ [mark])

end ProseTrace.Text.Quoted
