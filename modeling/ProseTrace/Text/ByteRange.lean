import ProseTrace.Text.ByteSize

/-!
# Half-open byte ranges

A range `[start, stop)` of byte offsets into UTF-8 text, possibly empty.  Ranges are compared by
inclusion (`contains`), by nearness (`touches`: they overlap or are directly adjacent) and
lexicographically; two ranges have a least range that contains both (`cover`).
-/

namespace ProseTrace.Text

/-- The byte offsets from `start` up to, and without, `stop`. -/
@[ext] structure ByteRange where
  start : Nat
  stop : Nat
  start_le_stop : start ≤ stop := by omega
  deriving DecidableEq

namespace ByteRange

inductive Invalid where
  | negative
  | reversed
  deriving DecidableEq

def Invalid.message : Invalid → String
  | .negative => "TextRange positions cannot be negative"
  | .reversed => "TextRange invariant violated: start > end"

/-- The range between two integers; a negative bound is reported before a reversed pair. -/
def ofInts (start stop : Int) : Except Invalid ByteRange :=
  if start < 0 ∨ stop < 0 then .error .negative
  else if h' : start ≤ stop then .ok ⟨start.toNat, stop.toNat, Int.toNat_le_toNat h'⟩
  else .error .reversed

def ofSize (start size : Nat) : ByteRange := ⟨start, start + size, Nat.le_add_right start size⟩

def ofSizes (start stop : ByteSize) : Except Invalid ByteRange :=
  if h : start ≤ stop then .ok ⟨start.bytes, stop.bytes, h⟩ else .error .reversed

instance : Membership Nat ByteRange := ⟨fun r i => r.start ≤ i ∧ i < r.stop⟩

instance (i : Nat) (r : ByteRange) : Decidable (i ∈ r) :=
  inferInstanceAs (Decidable (r.start ≤ i ∧ i < r.stop))

def size (r : ByteRange) : ByteSize := ⟨r.stop - r.start⟩

def contains (a b : ByteRange) : Bool := a.start ≤ b.start && b.stop ≤ a.stop

/-- The ranges overlap or are directly adjacent. -/
def touches (a b : ByteRange) : Bool := a.start ≤ b.stop && b.start ≤ a.stop

def cover (a b : ByteRange) : ByteRange where
  start := min a.start b.start
  stop := max a.stop b.stop
  start_le_stop := by have := a.start_le_stop; have := b.start_le_stop; omega

instance : LE ByteRange := ⟨fun a b => a.start < b.start ∨ a.start = b.start ∧ a.stop ≤ b.stop⟩
instance : LT ByteRange := ⟨fun a b => a.start < b.start ∨ a.start = b.start ∧ a.stop < b.stop⟩

instance (a b : ByteRange) : Decidable (a ≤ b) :=
  inferInstanceAs (Decidable (a.start < b.start ∨ a.start = b.start ∧ a.stop ≤ b.stop))

instance (a b : ByteRange) : Decidable (a < b) :=
  inferInstanceAs (Decidable (a.start < b.start ∨ a.start = b.start ∧ a.stop < b.stop))

def describe (r : ByteRange) : String := s!"TextRange({r.start}, {r.stop})"

theorem ofInts_natCast {start stop : Nat} (h : start ≤ stop) :
    ofInts start stop = .ok ⟨start, stop, h⟩ := by
  have hsigns : ¬ ((start : Int) < 0 ∨ (stop : Int) < 0) := by omega
  rw [ofInts, if_neg hsigns, dif_pos (Int.ofNat_le.2 h)]
  rfl

theorem mem_iff {i : Nat} {r : ByteRange} : i ∈ r ↔ r.start ≤ i ∧ i < r.stop := Iff.rfl

@[simp] theorem contains_iff {a b : ByteRange} :
    a.contains b = true ↔ a.start ≤ b.start ∧ b.stop ≤ a.stop := by
  simp [contains]

@[simp] theorem touches_iff {a b : ByteRange} :
    a.touches b = true ↔ a.start ≤ b.stop ∧ b.start ≤ a.stop := by
  simp [touches]

@[simp] theorem cover_start (a b : ByteRange) : (a.cover b).start = min a.start b.start := rfl

@[simp] theorem cover_stop (a b : ByteRange) : (a.cover b).stop = max a.stop b.stop := rfl

end ByteRange

end ProseTrace.Text
