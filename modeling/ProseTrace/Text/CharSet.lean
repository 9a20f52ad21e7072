import ProseTrace.Text.Offsets

/-!
# Sets of characters

A set of characters that come in runs is given by the code points at which membership changes, in
ascending order; the first of them begins the first run.
-/

namespace ProseTrace.Text

structure CharSet where
  edges : Array Nat

/-- An odd number of edges lies at or below the code point. -/
def CharSet.contains (s : CharSet) (c : Char) : Bool :=
  lowerBound s.edges (c.toNat + 1) % 2 == 1

end ProseTrace.Text
