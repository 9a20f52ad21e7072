/-!
# Byte counts

A measure of UTF-8 text, or an index into it.  Counts are never negative; a count read from an
integer is checked once, when it is made.
-/

namespace ProseTrace.Text

@[ext] structure ByteSize where
  bytes : Nat
  deriving DecidableEq

namespace ByteSize

inductive Invalid where
  | negative
  deriving DecidableEq

def Invalid.message : Invalid → String
  | .negative => "TextSize cannot be negative"

def ofInt (n : Int) : Except Invalid ByteSize :=
  if n < 0 then .error .negative else .ok ⟨n.toNat⟩

instance : LE ByteSize := ⟨fun a b => a.bytes ≤ b.bytes⟩
instance : LT ByteSize := ⟨fun a b => a.bytes < b.bytes⟩

instance (a b : ByteSize) : Decidable (a ≤ b) := inferInstanceAs (Decidable (a.bytes ≤ b.bytes))
instance (a b : ByteSize) : Decidable (a < b) := inferInstanceAs (Decidable (a.bytes < b.bytes))

def describe (s : ByteSize) : String := s!"TextSize({s.bytes})"

end ByteSize

end ProseTrace.Text
