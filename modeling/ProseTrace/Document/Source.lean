import ProseTrace.Text.ByteRange
import ProseTrace.Text.Offsets
import ProseTrace.Text.Quoted

/-!
# Document sources

The text of one file, addressed by UTF-8 byte offsets.  An offset is a character boundary if it is
the end of the text or the byte there begins a character; the offsets of all characters are also
listed in a table, by which character indices and byte offsets are turned into each other.
-/

namespace ProseTrace.Document

open Text

abbrev FileId := String

@[ext] structure Source where
  id : FileId
  text : String
  deriving DecidableEq

namespace Source

inductive AddressError where
  | invalidRange (range : ByteRange) (id : FileId)
  | noCharacter (index : Int) (id : FileId)
  | insideCharacter (offset : Int) (id : FileId)
  deriving DecidableEq

def AddressError.message : AddressError → String
  | .invalidRange range id => s!"{range.describe} is not a valid range of {Quoted.quote id}"
  | .noCharacter index id => s!"Character index {index} out of range for {Quoted.quote id}"
  | .insideCharacter offset id =>
    s!"Byte offset {offset} is not a character boundary of {Quoted.quote id}"

def encoded (s : Source) : ByteArray := s.text.toByteArray

def byteLength (s : Source) : Nat := s.encoded.size

/-- The byte at `offset` is no continuation byte, or the text ends there. -/
def isBoundary (s : Source) (offset : Nat) : Bool :=
  match s.encoded[offset]? with
  | some byte => byte &&& 0xC0 != 0x80
  | none => offset == s.byteLength

/-- As `isBoundary`, for an offset read from an integer. -/
def isBoundaryAt (s : Source) (offset : Int) : Bool :=
  if offset < 0 then false else s.isBoundary offset.toNat

/-- Both ends of the range are character boundaries of the text. -/
def admits (s : Source) (range : ByteRange) : Bool :=
  s.isBoundary range.start && s.isBoundary range.stop

def slice (s : Source) (range : ByteRange) : Except AddressError String :=
  if s.admits range then
    match String.fromUTF8? (s.encoded.extract range.start range.stop) with
    | some text => .ok text
    | none => .error (.invalidRange range s.id)
  else .error (.invalidRange range s.id)

def boundaries (s : Source) : Array Nat := offsets Char.utf8Size s.text.toList

/-- The byte offset of the character at `index`, or of the end of the text. -/
def byteOffset (s : Source) (index : Int) : Except AddressError Nat :=
  if index < 0 then .error (.noCharacter index s.id)
  else match s.boundaries[index.toNat]? with
    | some offset => .ok offset
    | none => .error (.noCharacter index s.id)

def charIndex (s : Source) (offset : Int) : Except AddressError Nat :=
  let table := s.boundaries
  let index := lowerBound table offset.toNat
  if table[index]?.map Int.ofNat = some offset then .ok index
  else .error (.insideCharacter offset s.id)

def describe (s : Source) : String := s!"Source({Quoted.quote s.id}, {s.byteLength} bytes)"

theorem byteLength_eq (s : Source) : s.byteLength = s.text.utf8ByteSize := rfl

theorem admits_iff {s : Source} {range : ByteRange} :
    s.admits range = true ↔ s.isBoundary range.start = true ∧ s.isBoundary range.stop = true := by
  simp [admits]

end Source

end ProseTrace.Document
