import ProseTrace.Decimal.Spelling
import ProseTrace.Json.Value

/-!
# Writing JSON

A value as one line of JSON text.  Quotes, backslashes and control characters are escaped, all other
characters stand for themselves; numbers without digits are written `NaN` and `Infinity`.
-/

namespace ProseTrace.Json

def words : Decimal.Words := ⟨"Infinity", "NaN"⟩

private def escapeChar (c : Char) : List Char :=
  if c == '"' || c == '\\' then ['\\', c]
  else if c == '\n' then ['\\', 'n']
  else if c.toNat < 0x20 then
    ['\\', 'u', '0', '0', Nat.digitChar (c.toNat / 16), Nat.digitChar (c.toNat % 16)]
  else [c]

def renderText (text : String) : String :=
  String.ofList ('"' :: text.toList.flatMap escapeChar ++ ['"'])

mutual

def render : Json → String
  | .null => "null"
  | .boolean value => if value then "true" else "false"
  | .integer value => toString value
  | .float value => value.spell words
  | .text value => renderText value
  | .list items => "[" ++ ",".intercalate (renderItems items) ++ "]"
  | .object fields => "\x7b" ++ ",".intercalate (renderFields fields) ++ "\x7d"

def renderItems : List Json → List String
  | [] => []
  | item :: rest => render item :: renderItems rest

def renderFields : List (String × Json) → List String
  | [] => []
  | (name, value) :: rest => (renderText name ++ ":" ++ render value) :: renderFields rest

end

end ProseTrace.Json
