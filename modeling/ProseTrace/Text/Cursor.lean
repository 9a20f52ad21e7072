import ProseTrace.Text.Offsets

/-!
# Cursors

A cursor turns character indices into byte offsets.  It stands between two characters of a text and
keeps the byte offset of that place up to date as it walks: forward it adds the width of each
character it passes, backward it takes the widths away again.  A walk may be told to halt in front
of a line end, in either direction.
-/

namespace ProseTrace.Text

/-- A line feed or a carriage return. -/
def isLineEnd (c : Char) : Bool := c == '\n' || c == '\r'

/-- A place in a text: the characters passed, nearest first, and those ahead. -/
@[ext] structure Cursor where
  passed : List Char
  ahead : List Char
  byteIndex : Nat
  deriving DecidableEq

namespace Cursor

structure NegativeIndex where
  deriving DecidableEq

def NegativeIndex.message (_ : NegativeIndex) : String := "char_index cannot be negative"

def ofString (text : String) : Cursor := ⟨[], text.toList, 0⟩

def chars (c : Cursor) : List Char := c.passed.reverse ++ c.ahead

def charIndex (c : Cursor) : Nat := c.passed.length

def next (c : Cursor) : Cursor :=
  match c.ahead with
  | [] => c
  | x :: rest => ⟨x :: c.passed, rest, c.byteIndex + x.utf8Size⟩

def previous (c : Cursor) : Cursor :=
  match c.passed with
  | [] => c
  | x :: rest => ⟨rest, x :: c.ahead, c.byteIndex - x.utf8Size⟩

/-- Where a walk ended, and whether a line end halted it. -/
structure Walk where
  halted : Bool
  cursor : Cursor

def forward (haltAtLineEnd : Bool) : Nat → Cursor → Walk
  | 0, c => ⟨false, c⟩
  | n + 1, c =>
    match c.ahead with
    | [] => ⟨false, c⟩
    | x :: _ => if haltAtLineEnd && isLineEnd x then ⟨true, c⟩ else forward haltAtLineEnd n c.next

def backward (haltAtLineEnd : Bool) : Nat → Cursor → Walk
  | 0, c => ⟨false, c⟩
  | n + 1, c =>
    match c.passed with
    | [] => ⟨false, c⟩
    | x :: _ =>
      if haltAtLineEnd && isLineEnd x then ⟨true, c⟩ else backward haltAtLineEnd n c.previous

def walk (c : Cursor) (target : Nat) (haltAtLineEnd : Bool) : Walk :=
  if c.charIndex ≤ target then forward haltAtLineEnd (target - c.charIndex) c
  else backward haltAtLineEnd (c.charIndex - target) c

/-- Walk toward `target` and give the byte offset reached there, or at the line end that halted the
walk.  There is none if the text ends before `target`; the cursor then rests at the end. -/
def seekIndex (c : Cursor) (target : Nat) (haltAtLineEnd : Bool) : Option Nat × Cursor :=
  let reached := c.walk target haltAtLineEnd
  if reached.halted || reached.cursor.charIndex == target then
    (some reached.cursor.byteIndex, reached.cursor)
  else (none, reached.cursor)

/-- As `seekIndex`, for a target read from an integer. -/
def seek (c : Cursor) (target : Int) (haltAtLineEnd : Bool) :
    Except NegativeIndex (Option Nat × Cursor) :=
  if target < 0 then .error {} else .ok (c.seekIndex target.toNat haltAtLineEnd)

def describe (c : Cursor) : String :=
  s!"StringCursor(char_index={c.charIndex}, utf_8_index={c.byteIndex})"

end Cursor

end ProseTrace.Text
