import ProseTrace.Checker.Fault
import ProseTrace.Text.Numeral
import ProseTrace.Text.Offsets

/-!
# Matches in a server's answer

A server answers a check with a JSON object whose `matches` place findings by UTF-16 units.  They
are read in order, each part of a match in a fixed order too, and the first fault ends the
reading.  What a match says is not looked into.
-/

namespace ProseTrace.Checker

open Finding Text

inductive MatchFault where
  | malformed (fault : Malformed)
  | infiniteIndex
  deriving DecidableEq

def MatchFault.toFault : MatchFault → Fault
  | .malformed fault => .backend (.malformed fault)
  | .infiniteIndex => .infiniteIndex

/-- How unit offsets become character indices: they are the same in a text without characters beyond
the basic plane, and are looked up in a table of offsets in any other. -/
inductive UnitIndex where
  | same
  | table (offsets : Array Nat) (size : Nat)

namespace UnitIndex

def isBasic (text : List Char) : Bool := text.all fun c => c.toNat < 0x10000

def ofText (text : List Char) : UnitIndex :=
  if isBasic text then .same else .table (offsets utf16Width text) text.length

/-- The index of the first character at or behind a unit offset. -/
def charIndex : UnitIndex → Int → Int
  | .same, offset => offset
  | .table offsets size, offset => min (lowerBound offsets offset.toNat) size

end UnitIndex

def valueAt (key : String) : Json → Except MatchFault Json
  | .object fields =>
    match Json.lookup? key fields with
    | some value => .ok value
    | none => .error (.malformed (.missingKey key))
  | _ => .error (.malformed .wrongType)

def valueOr (key : String) (default : Json) : Json → Except MatchFault Json
  | .object fields => .ok ((Json.lookup? key fields).getD default)
  | _ => .error (.malformed .noFields)

/-- The members of a value: items, names of fields, or single characters. -/
def members : Json → Except MatchFault (List Json)
  | .list items => .ok items
  | .object fields => .ok (fields.map fun field => .text field.1)
  | .text value => .ok (value.toList.map fun c => .text (String.singleton c))
  | _ => .error (.malformed .wrongType)

/-- The integer that a value stands for; a fraction is cut off. -/
def integerOf : Json → Except MatchFault Int
  | .integer value => .ok value
  | .boolean value => .ok (if value then 1 else 0)
  | .float (.finite negative significand exponent) =>
    let size : Int := Decimal.Binary64.integerPart significand exponent
    .ok (if negative then -size else size)
  | .float .nan => .error (.malformed .notAnInteger)
  | .float (.infinite _) => .error .infiniteIndex
  | .text value =>
    match Numeral.readInt? value with
    | some n => .ok n
    | none => .error (.malformed .notAnInteger)
  | _ => .error (.malformed .wrongType)

def readMatch (index : UnitIndex) (found : Json) : Except MatchFault Suggestion := do
  let offset ← integerOf (← valueAt "offset" found)
  let length ← integerOf (← valueAt "length" found)
  let given ← valueOr "rule" .null found
  let rule := if given.isTruthy then given else .object []
  let message ← valueAt "message" found
  let replacements ← members (← valueOr "replacements" (.list []) found)
  let replacements ← replacements.mapM (valueAt "value")
  let ruleDescription ← valueOr "description" (.text "") rule
  let ruleId ← valueOr "id" (.text "") rule
  match Suggestion.ofInts (index.charIndex offset) (index.charIndex (offset + length))
      ⟨message, replacements, ruleDescription, ruleId⟩ with
  | .ok suggestion => .ok suggestion
  | .error error => .error (.malformed (.invalidSuggestion error))

def readMatches (text : String) (payload : Json) : Except MatchFault (List Suggestion) := do
  let found ← members (← valueAt "matches" payload)
  found.mapM (readMatch (.ofText text.toList))

end ProseTrace.Checker
