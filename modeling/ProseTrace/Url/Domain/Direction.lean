import ProseTrace.Url.Domain.Marks

/-!
# Directions in domain names

The bidirectional classes of the letters of domain names (Unicode 14.0), and the rule on the labels
in which letters that are written from right to left stand (RFC 5893).
-/

namespace ProseTrace.Url.Domain

open Text

inductive Direction where
  | left
  | right
  | number
  | arabicNumber
  | inherited
  | neutral
  deriving DecidableEq

/-- Letters that are written from right to left, those of Arabic apart. -/
def rightToLeft : CharSet := ⟨#[
  0x5d0, 0x610, 0x7c0, 0x7eb, 0x7f4, 0x7fd, 0x800, 0x816, 0x81a, 0x81b, 0x824, 0x825, 0x828,
  0x829, 0x840, 0x859, 0x10800, 0x10a01, 0x10a10, 0x10a38, 0x10a60, 0x10ae5, 0x10b00, 0x10d00,
  0x10e80, 0x10eab, 0x10eb0, 0x10f30, 0x10f70, 0x10f82, 0x10fb0, 0x11000, 0x1e800, 0x1e8d0,
  0x1e922, 0x1e944, 0x1e94b, 0x20000]⟩

def arabicLetters : CharSet := ⟨#[
  0x620, 0x64b, 0x66e, 0x670, 0x671, 0x6d6, 0x6e5, 0x6e7, 0x6ee, 0x6f0, 0x6fa, 0x711, 0x712,
  0x730, 0x74d, 0x7a6, 0x7b1, 0x7c0, 0x860, 0x898, 0x8a0, 0x8ca, 0xfe73, 0x10000, 0x10d00,
  0x10d24, 0x10f30, 0x10f46]⟩

def arabicDigits : CharSet := ⟨#[0x660, 0x66e, 0x10d30, 0x10e80]⟩

def europeanDigits : CharSet := ⟨#[0x30, 0x61, 0x6f0, 0x6fa]⟩

def neutralLetters : CharSet := ⟨#[
  0x2d, 0x30, 0xb7, 0xdf, 0x2b9, 0x2bb, 0x2c6, 0x2d0, 0x2ec, 0x2ee, 0x375, 0x377, 0x200c, 0x214e,
  0x2e2f, 0x3005, 0x30fb, 0x30fc, 0xa67f, 0xa681, 0xa717, 0xa723, 0xa788, 0xa78c]⟩

/-- Nonspacing marks that are written from left to right whatever they stand behind. -/
def directedMarks : List Nat := [0xcbf, 0xcc6, 0x11a07, 0x11a08, 0x11c3f]

def direction (c : Char) : Direction :=
  if rightToLeft.contains c || arabicLetters.contains c then .right
  else if arabicDigits.contains c then .arabicNumber
  else if europeanDigits.contains c then .number
  else if neutralLetters.contains c then .neutral
  else if nonspacingMarks.contains c && !directedMarks.contains c.toNat then .inherited
  else .left

def lastDirection (ds : List Direction) : Option Direction :=
  (ds.filter (· != .inherited)).getLast?

/-- The rule on a label that is written from right to left: it has no letters of the other kind, one
kind of numbers, and a letter or number at its end. -/
def isRightToLeft (ds : List Direction) : Bool :=
  !ds.contains .left && !(ds.contains .number && ds.contains .arabicNumber) &&
    (lastDirection ds).any (· != .neutral)

def isLeftToRight (ds : List Direction) : Bool :=
  !ds.contains .right && !ds.contains .arabicNumber &&
    (lastDirection ds).any fun d => d == .left || d == .number

/-- A label keeps the rule; without anything that is written from right to left it does. -/
def isDirected (label : List Char) : Bool :=
  let ds := label.map direction
  if !ds.contains .right && !ds.contains .arabicNumber then true
  else match ds with
    | .right :: _ => isRightToLeft ds
    | .left :: _ => isLeftToRight ds
    | _ => false

end ProseTrace.Url.Domain
