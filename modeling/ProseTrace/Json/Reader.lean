import ProseTrace.Json.Encoding
import ProseTrace.Json.Value
import ProseTrace.Text.Numeral

/-!
# Reading JSON

A reader of one JSON value.  It also accepts `NaN`, `Infinity` and `-Infinity`, lets a fraction or
an exponent of any size round to a binary64 value, and lets the last of two fields of one name win.
Control characters inside a text are refused, and so are integers of more than
`Text.Numeral.maxDigits` digits.  Lists and objects too deep within each other end the reading; how
deep they may lie is a matter of the interpreter that reads, and a parameter.
-/

namespace ProseTrace.Json.Reader

def isBlank (c : Char) : Bool := c == ' ' || c == '\t' || c == '\n' || c == '\r'

def skipBlanks (input : List Char) : List Char := input.dropWhile isBlank

private def hexDigit? (c : Char) : Option Nat :=
  if c.isDigit then some (c.toNat - '0'.toNat)
  else if 'a' ≤ c ∧ c ≤ 'f' then some (c.toNat - 'a'.toNat + 10)
  else if 'A' ≤ c ∧ c ≤ 'F' then some (c.toNat - 'A'.toNat + 10)
  else none

private def unit? (a b c d : Char) : Option Nat := do
  return (← hexDigit? a) * 4096 + (← hexDigit? b) * 256 + (← hexDigit? c) * 16 + (← hexDigit? d)

private def shortEscape? : Char → Option Char
  | '"' => some '"'
  | '\\' => some '\\'
  | '/' => some '/'
  | 'b' => some '\x08'
  | 'f' => some '\x0c'
  | 'n' => some '\n'
  | 'r' => some '\r'
  | 't' => some '\t'
  | _ => none

/-- The characters of a text up to its closing quote, behind those in `read` (last first), and what
follows the quote. -/
def textBody (read : List Char) : List Char → Option (String × List Char)
  | [] => none
  | '"' :: rest => some (String.ofList read.reverse, rest)
  | '\\' :: 'u' :: a :: b :: c :: d :: '\\' :: 'u' :: e :: f :: g :: h :: rest => do
    let n ← unit? a b c d
    match unit? e f g h with
    | some m =>
      if Encoding.isHighSurrogate n && Encoding.isLowSurrogate m then
        textBody (Encoding.joinSurrogates n m :: read) rest
      else textBody ((← Encoding.charOf? n) :: read) ('\\' :: 'u' :: e :: f :: g :: h :: rest)
    | none => none
  | '\\' :: 'u' :: a :: b :: c :: d :: rest => do
    textBody ((← Encoding.charOf? (← unit? a b c d)) :: read) rest
  | '\\' :: c :: rest => do textBody ((← shortEscape? c) :: read) rest
  | c :: rest => if c.toNat < 0x20 || c == '\\' then none else textBody (c :: read) rest

private def digitsValue (digits : List Char) : Nat :=
  digits.foldl (fun n c => 10 * n + (c.toNat - '0'.toNat)) 0

private def signed (negative : Bool) (n : Nat) : Int := if negative then -(n : Int) else n

private def exponentPart (input : List Char) : Option Int × List Char :=
  match input with
  | mark :: rest =>
    if mark == 'e' || mark == 'E' then
      let (negative, unsigned) := match rest with
        | '-' :: more => (true, more)
        | '+' :: more => (false, more)
        | _ => (false, rest)
      match unsigned.takeWhile Char.isDigit with
      | [] => (none, input)
      | digits =>
        (some (signed negative (digitsValue digits)), unsigned.dropWhile Char.isDigit)
    else (none, input)
  | [] => (none, input)

private def fractionPart (input : List Char) : List Char × List Char :=
  match input with
  | '.' :: rest =>
    match rest.takeWhile Char.isDigit with
    | [] => ([], input)
    | digits => (digits, rest.dropWhile Char.isDigit)
  | _ => ([], input)

/-- A number behind its sign: an integer unless a fraction or an exponent follows it. -/
private def magnitude (negative : Bool) (input : List Char) : Option (Json × List Char) :=
  let (whole, rest) := match input with
    | '0' :: rest => (['0'], rest)
    | _ => (input.takeWhile Char.isDigit, input.dropWhile Char.isDigit)
  if whole.isEmpty then none
  else
    let (fraction, rest) := fractionPart rest
    let (exponent, rest) := exponentPart rest
    if fraction.isEmpty && exponent.isNone then
      if whole.length ≤ Text.Numeral.maxDigits then
        some (.integer (signed negative (digitsValue whole)), rest)
      else none
    else
      let power := exponent.getD 0 - (fraction.length : Int)
      some (.float (.ofDecimal negative (digitsValue (whole ++ fraction)) power), rest)

def scalar? : List Char → Option (Json × List Char)
  | 'n' :: 'u' :: 'l' :: 'l' :: rest => some (.null, rest)
  | 't' :: 'r' :: 'u' :: 'e' :: rest => some (.boolean true, rest)
  | 'f' :: 'a' :: 'l' :: 's' :: 'e' :: rest => some (.boolean false, rest)
  | 'N' :: 'a' :: 'N' :: rest => some (.float .nan, rest)
  | 'I' :: 'n' :: 'f' :: 'i' :: 'n' :: 'i' :: 't' :: 'y' :: rest =>
    some (.float (.infinite false), rest)
  | '-' :: 'I' :: 'n' :: 'f' :: 'i' :: 'n' :: 'i' :: 't' :: 'y' :: rest =>
    some (.float (.infinite true), rest)
  | '"' :: rest => (textBody [] rest).map fun (value, rest) => (.text value, rest)
  | '-' :: rest => magnitude true rest
  | input => magnitude false input

inductive Container where
  | list
  | object
  deriving DecidableEq

inductive Fault where
  | malformed
  | tooDeep (container : Container)
  deriving DecidableEq

instance : MonadLift Option (Except Fault) where
  monadLift x := x.elim (.error .malformed) .ok

mutual

/-- The value at the start of the text, in which so many more containers may lie within each other,
and what follows it. -/
def value (room : Nat) : Nat → List Char → Except Fault (Json × List Char)
  | 0, _ => .error .malformed
  | fuel + 1, '[' :: rest =>
    match room, skipBlanks rest with
    | 0, _ => .error (.tooDeep .list)
    | _ + 1, ']' :: rest => .ok (.list [], rest)
    | room + 1, rest => items room fuel [] rest
  | fuel + 1, '\x7b' :: rest =>
    match room, skipBlanks rest with
    | 0, _ => .error (.tooDeep .object)
    | _ + 1, '\x7d' :: rest => .ok (.object [], rest)
    | room + 1, rest => fields room fuel [] rest
  | _ + 1, input => liftM (scalar? input)

/-- The items of a list up to its closing bracket, behind those in `read` (last first). -/
def items (room : Nat) : Nat → List Json → List Char → Except Fault (Json × List Char)
  | 0, _, _ => .error .malformed
  | fuel + 1, read, input => do
    let (item, rest) ← value room fuel input
    match skipBlanks rest with
    | ',' :: rest => items room fuel (item :: read) (skipBlanks rest)
    | ']' :: rest => .ok (.list (item :: read).reverse, rest)
    | _ => .error .malformed

/-- The fields of an object up to its closing brace, behind those in `read`. -/
def fields (room : Nat) : Nat → List (String × Json) → List Char → Except Fault (Json × List Char)
  | fuel + 1, read, '"' :: input => do
    let (name, rest) ← textBody [] input
    match skipBlanks rest with
    | ':' :: rest =>
      let (found, rest) ← value room fuel (skipBlanks rest)
      match skipBlanks rest with
      | ',' :: rest => fields room fuel (setField read name found) (skipBlanks rest)
      | '\x7d' :: rest => .ok (.object (setField read name found), rest)
      | _ => .error .malformed
    | _ => .error .malformed
  | _, _, _ => .error .malformed

end

/-- The one value that the characters write.  Every step of the reader takes a character, and a step
into a container takes two units of fuel. -/
def ofChars (maxDepth : Nat) (input : List Char) : Except Fault Json := do
  let (found, rest) ← value maxDepth (2 * input.length + 2) (skipBlanks input)
  if (skipBlanks rest).isEmpty then return found else .error .malformed

end ProseTrace.Json.Reader

namespace ProseTrace.Json

def ofText (maxDepth : Nat) (text : String) : Except Reader.Fault Json :=
  Reader.ofChars maxDepth text.toList

/-- The value that the bytes write, in the encoding that they show. -/
def ofBytes (maxDepth : Nat) (bytes : List UInt8) : Except Reader.Fault Json := do
  Reader.ofChars maxDepth (← Encoding.decode bytes)

end ProseTrace.Json
