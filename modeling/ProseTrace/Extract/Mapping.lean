import ProseTrace.Document.Source
import ProseTrace.Finding.Suggestion
import ProseTrace.Text.SignedIndex

/-!
# From extracted characters to source bytes

A mapping tells for each character of an extracted text which bytes of which file it stands for, if
any.  A suggestion on the text is located by the spans of its characters: those in the source, and
valid there, are merged from left to right, each into the range before it if it lies within that
range or touches it.
-/

namespace ProseTrace.Extract

open Document Finding Text

structure Span where
  file : FileId
  range : ByteRange
  deriving DecidableEq

/-- The span of each character of a text; a character of no origin has none. -/
@[ext] structure Mapping where
  spans : List (Option Span)
  deriving DecidableEq

namespace Mapping

inductive IndexError where
  | outOfRange
  | notAWord
  deriving DecidableEq

def IndexError.message : IndexError → String
  | .outOfRange => "tuple index out of range"
  | .notAWord => "cannot fit 'int' into an index-sized integer"

def size (m : Mapping) : Nat := m.spans.length

/-- The span of the character at an index, which must be a 64-bit word and may count from the end.
-/
def spanAt (m : Mapping) (index : Int) : Except IndexError (Option Span) :=
  if index < Int64.minValue.toInt ∨ Int64.maxValue.toInt < index then .error .notAWord
  else match SignedIndex.resolve? m.size index with
    | some place => .ok (m.spans[place]?.join)
    | none => .error .outOfRange

def rangeIn? (source : Source) : Option Span → Option ByteRange
  | some span =>
    if span.file = source.id ∧ source.admits span.range = true then some span.range else none
  | none => none

/-- Merge the ranges behind `last` into it as long as they lie within it or touch it. -/
def mergeInto (last : ByteRange) : List ByteRange → List ByteRange
  | [] => [last]
  | range :: rest =>
    if last.contains range then mergeInto last rest
    else if last.touches range then mergeInto (last.cover range) rest
    else last :: mergeInto range rest

/-- Merge each range into the one before it where they meet. -/
def merge : List ByteRange → List ByteRange
  | [] => []
  | range :: rest => mergeInto range rest

def markedRanges (m : Mapping) (suggestion : Suggestion) (source : Source) : List ByteRange :=
  (suggestion.marked m.spans).filterMap (rangeIn? source)

def location (m : Mapping) (suggestion : Suggestion) (source : Source) : List ByteRange :=
  merge (m.markedRanges suggestion source)

def describe (m : Mapping) : String := s!"Mapping({m.size} chars)"

theorem mergeInto_ne_nil (last : ByteRange) (ranges : List ByteRange) :
    mergeInto last ranges ≠ [] := by
  fun_induction mergeInto last ranges <;> simp_all

theorem merge_eq_nil_iff {ranges : List ByteRange} : merge ranges = [] ↔ ranges = [] := by
  cases ranges <;> simp [merge, mergeInto_ne_nil]

theorem rangeIn?_eq_some_iff {source : Source} {span : Option Span} {range : ByteRange} :
    rangeIn? source span = some range ↔
      span = some ⟨source.id, range⟩ ∧ source.admits range = true := by
  cases span with
  | none => simp [rangeIn?]
  | some span =>
    obtain ⟨file, r⟩ := span
    simp only [rangeIn?, Option.ite_none_right_eq_some, Option.some.injEq, Span.mk.injEq]
    constructor
    · rintro ⟨⟨rfl, h⟩, rfl⟩; exact ⟨⟨rfl, rfl⟩, h⟩
    · rintro ⟨⟨rfl, rfl⟩, h⟩; exact ⟨⟨rfl, h⟩, rfl⟩

end Mapping

end ProseTrace.Extract
