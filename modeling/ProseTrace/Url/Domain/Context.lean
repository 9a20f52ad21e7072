import ProseTrace.Url.Domain.Marks

/-!
# Characters bound to a context

Some characters may stand in domain names among certain neighbours only: the joiners, some marks of
punctuation, and the digits of two kinds of Arabic numbers, which are not mixed (RFC 5892).
-/

namespace ProseTrace.Url.Domain

open Text

def greek : CharSet := ⟨#[
  0x371, 0x3e3, 0x3f3, 0x430, 0x1d26, 0x1d2b, 0x1f00, 0x200c, 0xab65, 0xab66]⟩

def hebrew : CharSet := ⟨#[0x591, 0x610, 0xfb1e, 0xfe20]⟩

def japanese : CharSet := ⟨#[
  0x3005, 0x3006, 0x3007, 0x302a, 0x3041, 0x3099, 0x309d, 0x30fb, 0x30fd, 0x3105, 0x31f0, 0xa000,
  0xfa0e, 0xfb1e, 0x16fe3, 0x16fe4, 0x16ff0, 0x17000, 0x1aff0, 0x1b170, 0x20000]⟩

def dualJoining : CharSet := ⟨#[
  0x620, 0x621, 0x626, 0x627, 0x628, 0x629, 0x62a, 0x62f, 0x633, 0x648, 0x649, 0x64b, 0x66e,
  0x670, 0x679, 0x688, 0x69a, 0x6c0, 0x6c1, 0x6c3, 0x6cc, 0x6cd, 0x6ce, 0x6cf, 0x6d0, 0x6d2,
  0x6fa, 0x6fd, 0x6ff, 0x710, 0x712, 0x715, 0x71a, 0x71e, 0x71f, 0x728, 0x729, 0x72a, 0x72b,
  0x72c, 0x72d, 0x72f, 0x74e, 0x759, 0x75c, 0x76b, 0x76d, 0x771, 0x772, 0x773, 0x775, 0x778,
  0x77a, 0x780, 0x7ca, 0x7eb, 0x841, 0x846, 0x848, 0x849, 0x84a, 0x854, 0x855, 0x856, 0x860,
  0x861, 0x862, 0x866, 0x868, 0x869, 0x886, 0x887, 0x889, 0x88e, 0x8a0, 0x8aa, 0x8af, 0x8b1,
  0x8b3, 0x8b9, 0x8ba, 0x8c9, 0x1820, 0x1880, 0x1887, 0x18a9, 0x18aa, 0x18b0, 0xa840, 0xa872,
  0x10ac0, 0x10ac5, 0x10ad3, 0x10ad7, 0x10ad8, 0x10add, 0x10ade, 0x10ae1, 0x10b80, 0x10b81,
  0x10b82, 0x10b83, 0x10b86, 0x10b89, 0x10b8a, 0x10b8c, 0x10b8d, 0x10b8e, 0x10b90, 0x10b91,
  0x10d01, 0x10d22, 0x10d23, 0x10d24, 0x10f30, 0x10f33, 0x10f34, 0x10f45, 0x10f70, 0x10f74,
  0x10f76, 0x10f82, 0x10fb0, 0x10fb1, 0x10fb2, 0x10fb4, 0x10fb8, 0x10fb9, 0x10fbb, 0x10fbd,
  0x10fbe, 0x10fc0, 0x10fc1, 0x10fc2, 0x10fc4, 0x10fe0, 0x1e922, 0x1e944]⟩

def leftJoining : CharSet := ⟨#[
  0xa872, 0xa873, 0x10acd, 0x10ace, 0x10ad7, 0x10ad8, 0x10d00, 0x10d01]⟩

def rightJoining : CharSet := ⟨#[
  0x622, 0x626, 0x627, 0x628, 0x629, 0x62a, 0x62f, 0x633, 0x648, 0x649, 0x671, 0x674, 0x688,
  0x69a, 0x6c0, 0x6c1, 0x6c3, 0x6cc, 0x6cd, 0x6ce, 0x6cf, 0x6d0, 0x6d2, 0x6d6, 0x6ee, 0x6f0,
  0x710, 0x711, 0x715, 0x71a, 0x71e, 0x71f, 0x728, 0x729, 0x72a, 0x72b, 0x72c, 0x72d, 0x72f,
  0x730, 0x74d, 0x74e, 0x759, 0x75c, 0x76b, 0x76d, 0x771, 0x772, 0x773, 0x775, 0x778, 0x77a,
  0x840, 0x841, 0x846, 0x848, 0x849, 0x84a, 0x854, 0x855, 0x856, 0x859, 0x867, 0x868, 0x869,
  0x883, 0x88e, 0x898, 0x8aa, 0x8ad, 0x8ae, 0x8af, 0x8b1, 0x8b3, 0x8b9, 0x8ba, 0x10ac5, 0x10ac6,
  0x10ac7, 0x10acb, 0x10ace, 0x10ad3, 0x10add, 0x10ade, 0x10ae1, 0x10ae2, 0x10ae4, 0x10ae5,
  0x10b81, 0x10b82, 0x10b83, 0x10b86, 0x10b89, 0x10b8a, 0x10b8c, 0x10b8d, 0x10b8e, 0x10b90,
  0x10b91, 0x10c00, 0x10d22, 0x10d23, 0x10f33, 0x10f34, 0x10f74, 0x10f76, 0x10fb4, 0x10fb7,
  0x10fb9, 0x10fbb, 0x10fbd, 0x10fbe, 0x10fc2, 0x10fc4]⟩

def isVirama (c : Char) : Bool := combiningClass c == 9

/-- Letters join through these: the nonspacing marks, without the medial ra of Ahom, and the mark of
nasalization of Adlam. -/
def isTransparent (c : Char) : Bool :=
  nonspacingMarks.contains c && c.toNat != 0x1171e || c.toNat == 0x1e94b

/-- A non-joiner breaks a ligature, or parts two letters that would join. -/
def mayPart (before after : List Char) : Bool :=
  before.head?.any isVirama ||
    ((before.dropWhile isTransparent).head?.any fun c =>
        leftJoining.contains c || dualJoining.contains c) &&
      ((after.dropWhile isTransparent).head?.any fun c =>
        rightJoining.contains c || dualJoining.contains c)

private def isBetween (first last : Nat) (c : Char) : Bool := first ≤ c.toNat && c.toNat ≤ last

def isArabicIndic (c : Char) : Bool := isBetween 0x660 0x669 c

def isExtendedArabicIndic (c : Char) : Bool := isBetween 0x6f0 0x6f9 c

/-- A character may stand behind these, the nearest first, and before those, in this label. -/
def suits (label before : List Char) (c : Char) (after : List Char) : Bool :=
  if isArabicIndic c then !label.any isExtendedArabicIndic
  else if isExtendedArabicIndic c then !label.any isArabicIndic
  else match c.toNat with
    | 0x200c => mayPart before after
    | 0x200d => before.head?.any isVirama
    | 0xb7 => before.head? == some 'l' && after.head? == some 'l'
    | 0x375 => after.head?.any greek.contains
    | 0x5f3 => before.head?.any hebrew.contains
    | 0x5f4 => before.head?.any hebrew.contains
    | 0x30fb => label.any fun d => d != c && japanese.contains d
    | _ => false

end ProseTrace.Url.Domain
