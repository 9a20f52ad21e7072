import ProseTrace.Decimal.Spelling
import ProseTrace.Json.Value
import ProseTrace.Text.Quoted

/-!
# JSON values within a line of text

How a log line shows a value: a text stands as it is, other values with the words `None`, `True` and
`False`, with items and fields between brackets, and with the texts inside them quoted.
-/

namespace ProseTrace.Json

def inlineWords : Decimal.Words := ⟨"inf", "nan"⟩

mutual

/-- The value as it stands inside a list or an object. -/
def inlineNested : Json → String
  | .null => "None"
  | .boolean value => if value then "True" else "False"
  | .integer value => toString value
  | .float value => value.spell inlineWords
  | .text value => Text.Quoted.quote value
  | .list items => "[" ++ ", ".intercalate (inlineItems items) ++ "]"
  | .object fields => "\x7b" ++ ", ".intercalate (inlineFields fields) ++ "\x7d"

def inlineItems : List Json → List String
  | [] => []
  | item :: rest => inlineNested item :: inlineItems rest

def inlineFields : List (String × Json) → List String
  | [] => []
  | (name, value) :: rest =>
    (Text.Quoted.quote name ++ ": " ++ inlineNested value) :: inlineFields rest

end

def inlined : Json → String
  | .text value => value
  | value => inlineNested value

end ProseTrace.Json
