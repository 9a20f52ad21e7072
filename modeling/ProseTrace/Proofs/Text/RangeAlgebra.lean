import Mathlib.Order.Lattice
import Mathlib.Order.OrderDual
import ProseTrace.Text.ByteRange

/-!
# The algebra of ranges

Ranges are ordered by containment.  A range grows as its start goes back or its stop goes on, so
this is the order of the pairs of ends, starts taken in reverse; the cover of two ranges has the
join of their ends, and the laws of covers are those of joins.

Empty ranges have a place but no bytes, and only their ends tell them apart.  Whether two ranges
touch is still a matter of bytes: between two ranges that are apart, empty or not, stands a byte of
their cover that is in neither.
-/

namespace ProseTrace.Proofs.Text.RangeAlgebra

open ProseTrace.Text

variable {a b c : ByteRange}

/-! ## Containment -/

/-- The ends of a range, starts in reverse order: of two ranges the one that contains the other has
the greater ends. -/
def ends (r : ByteRange) : ℕᵒᵈ × ℕ := (OrderDual.toDual r.start, r.stop)

theorem ends_injective : Function.Injective ends := by
  intro a b h
  obtain ⟨hstart, hstop⟩ := Prod.mk.inj h
  exact ByteRange.ext (OrderDual.toDual_inj.1 hstart) hstop

theorem contains_iff_ends_le : a.contains b = true ↔ ends b ≤ ends a := by
  rw [ByteRange.contains_iff, ends, ends, Prod.mk_le_mk, OrderDual.toDual_le_toDual]

theorem isPartialOrder_contains :
    IsPartialOrder ByteRange fun a b => a.contains b = true where
  refl a := contains_iff_ends_le.2 (le_refl (ends a))
  trans a b c hab hbc := by
    rw [contains_iff_ends_le] at hab hbc ⊢
    exact le_trans hbc hab
  antisymm a b hab hba := by
    rw [contains_iff_ends_le] at hab hba
    exact ends_injective (le_antisymm hba hab)

theorem mem_of_contains (h : a.contains b = true) {byte : Nat} (hbyte : byte ∈ b) : byte ∈ a := by
  rw [ByteRange.contains_iff] at h
  rw [ByteRange.mem_iff] at hbyte ⊢
  omega

/-! ## Covers -/

theorem ends_cover (a b : ByteRange) : ends (a.cover b) = ends a ⊔ ends b := rfl

theorem cover_comm (a b : ByteRange) : a.cover b = b.cover a := by
  apply ends_injective
  rw [ends_cover, ends_cover, sup_comm]

theorem cover_assoc (a b c : ByteRange) : (a.cover b).cover c = a.cover (b.cover c) := by
  apply ends_injective
  simp only [ends_cover, sup_assoc]

theorem cover_self (a : ByteRange) : a.cover a = a := by
  apply ends_injective
  rw [ends_cover, sup_idem]

theorem contains_cover_iff : c.contains (a.cover b) = true ↔
    c.contains a = true ∧ c.contains b = true := by
  simp only [contains_iff_ends_le, ends_cover, sup_le_iff]

theorem cover_contains (a b : ByteRange) :
    (a.cover b).contains a = true ∧ (a.cover b).contains b = true :=
  contains_cover_iff.1 (isPartialOrder_contains.refl (a.cover b))

theorem cover_eq_of_contains (h : a.contains b = true) : a.cover b = a := by
  apply ends_injective
  rw [ends_cover, sup_eq_left]
  exact contains_iff_ends_le.1 h

/-- Of the ranges with a property, the one that lies within all the others. -/
def IsLeastRange (p : ByteRange → Prop) (least : ByteRange) : Prop :=
  p least ∧ ∀ r, p r → r.contains least = true

theorem isLeastRange_cover (a b : ByteRange) :
    IsLeastRange (fun r => r.contains a = true ∧ r.contains b = true) (a.cover b) :=
  ⟨cover_contains a b, fun _ => contains_cover_iff.2⟩

/-- The ends of a cover bound a range, so the check of its ends never fails. -/
theorem ofInts_cover (a b : ByteRange) :
    ByteRange.ofInts (min (a.start : Int) b.start) (max (a.stop : Int) b.stop) =
      .ok (a.cover b) := by
  have hstart : min (a.start : Int) b.start = (a.cover b).start := by
    rw [ByteRange.cover_start]
    omega
  have hstop : max (a.stop : Int) b.stop = (a.cover b).stop := by
    rw [ByteRange.cover_stop]
    omega
  rw [hstart, hstop]
  exact ByteRange.ofInts_natCast (a.cover b).start_le_stop

/-! ## Touching ranges -/

theorem touches_of_contains (h : a.contains b = true) : a.touches b = true := by
  rw [ByteRange.contains_iff] at h
  rw [ByteRange.touches_iff]
  have := b.start_le_stop
  omega

theorem touches_self (a : ByteRange) : a.touches a = true :=
  touches_of_contains (isPartialOrder_contains.refl a)

theorem touches_comm (a b : ByteRange) : a.touches b = b.touches a := by
  rw [Bool.eq_iff_iff, ByteRange.touches_iff, ByteRange.touches_iff]
  exact and_comm

/-- Of two ranges that touch, a third one touches the cover only where it touches one of them. -/
theorem touches_cover_iff (h : a.touches b = true) :
    c.touches (a.cover b) = true ↔ c.touches a = true ∨ c.touches b = true := by
  have := c.start_le_stop
  simp only [ByteRange.touches_iff, ByteRange.cover_start, ByteRange.cover_stop] at h ⊢
  omega

theorem mem_cover_iff (h : a.touches b = true) {byte : Nat} :
    byte ∈ a.cover b ↔ byte ∈ a ∨ byte ∈ b := by
  rw [ByteRange.touches_iff] at h
  constructor
  · intro hbyte
    rw [ByteRange.mem_iff, ByteRange.cover_start, ByteRange.cover_stop] at hbyte
    rw [ByteRange.mem_iff, ByteRange.mem_iff]
    omega
  · rintro (hbyte | hbyte)
    · exact mem_of_contains (cover_contains a b).1 hbyte
    · exact mem_of_contains (cover_contains a b).2 hbyte

/-- Where two ranges are apart, the byte at which the first of them stops is in the cover alone. -/
theorem exists_mem_cover_of_not_touches (h : ¬ a.touches b = true) :
    ∃ byte ∈ a.cover b, byte ∉ a ∧ byte ∉ b := by
  have ha := a.start_le_stop
  have hb := b.start_le_stop
  have hapart : a.stop < b.start ∨ b.stop < a.start := by
    rw [ByteRange.touches_iff] at h
    omega
  refine ⟨min a.stop b.stop, ?_, ?_, ?_⟩
  · rw [ByteRange.mem_iff, ByteRange.cover_start, ByteRange.cover_stop]
    omega
  · rw [ByteRange.mem_iff]
    omega
  · rw [ByteRange.mem_iff]
    omega

theorem touches_iff_forall_mem_cover :
    a.touches b = true ↔ ∀ byte ∈ a.cover b, byte ∈ a ∨ byte ∈ b := by
  constructor
  · intro h byte hbyte
    exact (mem_cover_iff h).1 hbyte
  · intro h
    by_contra hapart
    obtain ⟨byte, hbyte, hnota, hnotb⟩ := exists_mem_cover_of_not_touches hapart
    exact (h byte hbyte).elim hnota hnotb

/-- An empty range touches a range at whose end it stands, but not one that stops before it. -/
example : ByteRange.touches ⟨0, 2, by decide⟩ ⟨2, 2, by decide⟩ = true ∧
    ByteRange.touches ⟨0, 2, by decide⟩ ⟨3, 3, by decide⟩ = false := by decide

theorem touches_iff_mem_cover_iff :
    a.touches b = true ↔ ∀ byte, byte ∈ a.cover b ↔ byte ∈ a ∨ byte ∈ b := by
  constructor
  · exact fun h _ => mem_cover_iff h
  · exact fun h => touches_iff_forall_mem_cover.2 fun byte => (h byte).1

/-- Containment is a partial order, and the cover of two ranges always is a range, the least one
that contains both; covering is commutative, associative and idempotent.  Touching is reflexive and
symmetric.  Two ranges touch exactly if each byte of their cover is in one of them, that is, if the
cover may stand for the two without a byte more or less. -/
theorem touches_iff_cover_adds_no_byte :
    (IsPartialOrder ByteRange fun a b => a.contains b = true) ∧
    (∀ a b : ByteRange,
      ByteRange.ofInts (min (a.start : Int) b.start) (max (a.stop : Int) b.stop) =
        .ok (a.cover b) ∧
      IsLeastRange (fun r => r.contains a = true ∧ r.contains b = true) (a.cover b)) ∧
    (∀ a b : ByteRange, a.cover b = b.cover a) ∧
    (∀ a b c : ByteRange, (a.cover b).cover c = a.cover (b.cover c)) ∧
    (∀ a : ByteRange, a.cover a = a) ∧
    (∀ a : ByteRange, a.touches a = true) ∧
    (∀ a b : ByteRange, a.touches b = b.touches a) ∧
    ∀ a b : ByteRange,
      (a.touches b = true ↔ ∀ byte ∈ a.cover b, byte ∈ a ∨ byte ∈ b) ∧
      (a.touches b = true ↔ ∀ byte, byte ∈ a.cover b ↔ byte ∈ a ∨ byte ∈ b) := by
  refine ⟨isPartialOrder_contains, fun a b => ⟨ofInts_cover a b, isLeastRange_cover a b⟩,
    cover_comm, cover_assoc, cover_self, touches_self, touches_comm, fun a b => ⟨?_, ?_⟩⟩
  · exact touches_iff_forall_mem_cover
  · exact touches_iff_mem_cover_iff

end ProseTrace.Proofs.Text.RangeAlgebra
