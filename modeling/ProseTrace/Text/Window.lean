import ProseTrace.Text.Cursor
import ProseTrace.Text.SignedIndex

/-!
# Lines and columns

A window follows a cursor and counts lines and columns as the cursor moves, by replaying the
characters between the old place and the new one.  A line ends at a line feed only.  Going back over
a line feed leaves the previous line's length unknown; the column is then the placeholder 1, and
further steps back never take it below zero.
-/

namespace ProseTrace.Text

/-- A place in a text: its byte offset, and line and column from zero, the column in characters. -/
structure Position where
  byte : Nat
  line : Int
  column : Nat
  deriving DecidableEq

structure Window where
  cursor : Cursor
  line : Int
  column : Nat
  deriving DecidableEq

namespace Window

/-- A window at the start of a text whose first character sits on `line`. -/
def onLine (line : Int) (text : String) : Window := ⟨.ofString text, line, 0⟩

def ofString (text : String) : Window := onLine 0 text

structure Counts where
  line : Int
  column : Nat

def Counts.after (n : Counts) (c : Char) : Counts :=
  if c == '\n' then ⟨n.line + 1, 0⟩ else ⟨n.line, n.column + 1⟩

def Counts.before (n : Counts) (c : Char) : Counts :=
  if c == '\n' then ⟨n.line - 1, 1⟩ else ⟨n.line, n.column - 1⟩

/-- Take over the cursor's new place, replaying the characters on the way to it. -/
def follow (w : Window) (cursor : Cursor) : Window :=
  let forward := w.cursor.ahead.take (cursor.charIndex - w.cursor.charIndex)
  let backward := w.cursor.passed.take (w.cursor.charIndex - cursor.charIndex)
  let counts := backward.foldl Counts.before (forward.foldl Counts.after ⟨w.line, w.column⟩)
  ⟨cursor, counts.line, counts.column⟩

/-- Move to the character index `target`, or to the line end that halts the walk, and report the
place reached; beyond the text that is its end. -/
def moveTo (w : Window) (target : Nat) (haltAtLineEnd : Bool) : Position × Window :=
  let (offset, cursor) := w.cursor.seekIndex target haltAtLineEnd
  let moved := w.follow cursor
  (⟨offset.getD (measure Char.utf8Size w.cursor.chars), moved.line, moved.column⟩, moved)

/-- As `moveTo`, for a target read from an integer. -/
def seek (w : Window) (target : Int) (haltAtLineEnd : Bool) :
    Except Cursor.NegativeIndex (Position × Window) :=
  if target < 0 then .error {} else .ok (w.moveTo target.toNat haltAtLineEnd)

structure SplitCharacter where
  deriving DecidableEq

/-- The text between two byte offsets, which are clamped and may count from the end. -/
def substring (w : Window) (start stop : Int) : Except SplitCharacter String :=
  let bytes := (String.ofList w.cursor.chars).toByteArray
  let first := SignedIndex.clamp bytes.size start
  let last := SignedIndex.clamp bytes.size stop
  match String.fromUTF8? (bytes.extract first last) with
  | some text => .ok text
  | none => .error {}

end Window

end ProseTrace.Text
