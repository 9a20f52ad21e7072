import ProseTrace.Extract.Mapping

/-!
# Building extracted text

A builder collects the text that a document shows to a checker, and with each character the bytes it
came from: pieces of a source, whose characters each map to their own bytes; text that stands for a
whole node; and text of no origin.
-/

namespace ProseTrace.Extract

open Document Text

structure Segment where
  text : String
  mapping : Mapping
  language : Option String
  deriving DecidableEq

@[ext] structure Builder where
  text : String
  spans : List (Option Span)
  deriving DecidableEq

namespace Builder

def empty : Builder := ⟨"", []⟩

def size (b : Builder) : Nat := b.spans.length

def charSpans (file : FileId) (offset : Nat) : List Char → List Span
  | [] => []
  | c :: rest =>
    ⟨file, .ofSize offset c.utf8Size⟩ :: charSpans file (offset + c.utf8Size) rest

/-- Copy a valid range of a source; every character maps to its own bytes. -/
def pushSource (b : Builder) (source : Source) (range : ByteRange) :
    Except Source.AddressError Builder :=
  match source.slice range with
  | .ok text =>
    .ok ⟨b.text ++ text, b.spans ++ (charSpans source.id range.start text.toList).map some⟩
  | .error error => .error error

def pushNode (b : Builder) (text : String) (span : Span) : Builder :=
  ⟨b.text ++ text, b.spans ++ text.toList.map fun _ => some span⟩

def pushSynthetic (b : Builder) (text : String) : Builder :=
  ⟨b.text ++ text, b.spans ++ text.toList.map fun _ => none⟩

def finish (b : Builder) (language : Option String) : Segment × Builder :=
  (⟨b.text, ⟨b.spans⟩, language⟩, empty)

end Builder

end ProseTrace.Extract
