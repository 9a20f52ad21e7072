/-!
# Indices counted from either end

In a sequence of `size` items a negative index counts from the end.  A single item is found only if
the index falls inside (`resolve?`); the bounds of a slice are clamped into the sequence instead
(`clamp`), so that every pair of bounds selects some slice.
-/

namespace ProseTrace.Text.SignedIndex

/-- The place of the item that `index` names. -/
def resolve? (size : Nat) (index : Int) : Option Nat :=
  let place := if index < 0 then index + size else index
  if 0 ≤ place ∧ place < size then some place.toNat else none

/-- The place of the slice bound that `index` names. -/
def clamp (size : Nat) (index : Int) : Nat :=
  if index < 0 then (index + size).toNat else min index.toNat size

theorem clamp_le (size : Nat) (index : Int) : clamp size index ≤ size := by
  unfold clamp; split <;> omega

end ProseTrace.Text.SignedIndex
