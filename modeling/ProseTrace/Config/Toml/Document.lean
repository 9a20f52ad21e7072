import ProseTrace.Config.Toml.Nest
import ProseTrace.Config.Toml.Number

/-!
# TOML documents

A document is a sequence of statements, each on lines of its own: entries, and headers that name the
table for the entries behind them, or add a table to a list.  Lists, and tables within a line, are
read up to a limited depth.
-/

namespace ProseTrace.Config.Toml

/-- The greatest weight of what lies around a value: a list weighs two, a table within a line
three. -/
def maxWeight : Nat := 988

mutual

def readValue (weight : Nat) : Nat → List Char → Except Fault (Value × List Char)
  | 0, _ => .error .malformed
  | _ + 1, 't' :: 'r' :: 'u' :: 'e' :: rest => .ok (.boolean true, rest)
  | _ + 1, 'f' :: 'a' :: 'l' :: 's' :: 'e' :: rest => .ok (.boolean false, rest)
  | fuel + 1, '[' :: rest =>
    if maxWeight < weight + 2 then .error .tooDeep
    else do readItems (weight + 2) fuel [] (← skipTrivia rest)
  | fuel + 1, '\x7b' :: rest =>
    if maxWeight < weight + 3 then .error .tooDeep
    else match skipBlanks rest with
      | '\x7d' :: rest => .ok (.table [], rest)
      | rest => readInlineEntries (weight + 3) fuel [] Marks.empty rest
  | _ + 1, input =>
    if input.head? = some '"' ∨ input.head? = some '\'' then do
      let (text, rest) ← string? input
      return (.text text, rest)
    else plainValue input

/-- The items of a list up to its closing bracket, behind those in `read` (last first). -/
def readItems (weight : Nat) : Nat → List Value → List Char → Except Fault (Value × List Char)
  | 0, _, _ => .error .malformed
  | _ + 1, read, ']' :: rest => .ok (.list read.reverse, rest)
  | fuel + 1, read, input => do
    let (item, rest) ← readValue weight fuel input
    match ← skipTrivia rest with
    | ',' :: rest => readItems weight fuel (item :: read) (← skipTrivia rest)
    | ']' :: rest => .ok (.list (item :: read).reverse, rest)
    | _ => .error .malformed

def readInlineEntries (weight : Nat) :
    Nat → Table → Marks → List Char → Except Fault (Value × List Char)
  | 0, _, _, _ => .error .malformed
  | fuel + 1, read, marks, input => do
    let ((key, value), rest) ← readEntry weight fuel input
    if marks.isFrozen key then .error .malformed
    else
      let entries ← changeNest false (addEntry (key.getLast?.getD "") value) key.dropLast read
      match skipBlanks rest with
      | '\x7d' :: rest => .ok (.table entries, rest)
      | ',' :: rest =>
        let marks := if isSealedValue value then marks.freeze key else marks
        readInlineEntries weight fuel entries marks (skipBlanks rest)
      | _ => .error .malformed

def readEntry (weight : Nat) : Nat → List Char → Except Fault ((Key × Value) × List Char)
  | 0, _ => .error .malformed
  | fuel + 1, input => do
    let (key, rest) ← key? input
    match rest with
    | '=' :: rest =>
      let (value, rest) ← readValue weight fuel (skipBlanks rest)
      return ((key, value), rest)
    | _ => .error .malformed

end

/-- A document read so far: its entries, the marks on them, and the table that entries go into. -/
structure Draft where
  entries : Table
  marks : Marks
  header : Key

namespace Draft

def empty : Draft := ⟨[], Marks.empty, []⟩

/-- The tables that a dotted key passes through, below the header. -/
def passed (header key : Key) : List Key :=
  (List.range (key.length - 1)).map fun n => header ++ key.take (n + 1)

def addEntry? (d : Draft) (key : Key) (value : Value) : Option Draft :=
  let way := passed d.header key
  let parent := d.header ++ key.dropLast
  if way.any d.marks.isDeclared || d.marks.isFrozen parent then none
  else do
    let entries ← changeNest true (addEntry (key.getLast?.getD "") value) parent d.entries
    let marks := way.foldl Marks.openTable d.marks
    let marks := if isSealedValue value then marks.freeze (d.header ++ key) else marks
    return { d with entries, marks }

def declareTable? (d : Draft) (key : Key) : Option Draft :=
  let marks := d.marks.endSection
  if marks.isDeclared key || marks.isFrozen key then none
  else do
    let entries ← changeNest true some key d.entries
    return ⟨entries, marks.declare key, key⟩

def declareListTable? (d : Draft) (key : Key) : Option Draft :=
  let marks := d.marks.endSection
  if marks.isFrozen key then none
  else do
    let entries ← changeNest true (addListTable (key.getLast?.getD "")) key.dropLast d.entries
    return ⟨entries, (marks.clear key).declare key, key⟩

def readStatement (d : Draft) (input : List Char) : Except Fault (Draft × List Char) :=
  match input with
  | '[' :: '[' :: rest => do
    let (key, rest) ← key? (skipBlanks rest)
    match rest with
    | ']' :: ']' :: rest => return (← d.declareListTable? key, rest)
    | _ => .error .malformed
  | '[' :: rest => do
    let (key, rest) ← key? (skipBlanks rest)
    match rest with
    | ']' :: rest => return (← d.declareTable? key, rest)
    | _ => .error .malformed
  | '#' :: _ => .ok (d, input)
  | _ => do
    let ((key, value), rest) ← readEntry 0 (2 * input.length + 2) input
    return (← d.addEntry? key value, rest)

/-- All statements of the input; each takes a character at least. -/
def readStatements : Nat → Draft → List Char → Except Fault Draft
  | 0, _, _ => .error .malformed
  | fuel + 1, d, input =>
    match skipBlanks input with
    | [] => .ok d
    | '\n' :: rest => readStatements fuel d rest
    | input => do
      let (d, rest) ← d.readStatement input
      match ← skipComment (skipBlanks rest) with
      | [] => .ok d
      | '\n' :: rest => readStatements fuel d rest
      | _ => .error .malformed

end Draft

/-- A carriage return in front of a line feed is dropped. -/
def joinLineEnds : List Char → List Char
  | '\r' :: '\n' :: rest => '\n' :: joinLineEnds rest
  | c :: rest => c :: joinLineEnds rest
  | [] => []

def ofText (text : String) : Except Fault Table :=
  let input := joinLineEnds text.toList
  (Draft.readStatements (input.length + 1) .empty input).map (·.entries)

end ProseTrace.Config.Toml
