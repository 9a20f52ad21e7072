/-!
# Offset tables

A text can be measured in characters, in UTF-8 bytes or in UTF-16 units.  `measure width` adds the
widths of its characters, and `offsets width` lists the measure of every prefix, so that entry `i`
is the offset of character `i` and the last entry is the measure of the whole text.  The table
grows, and `lowerBound` finds an offset in it by bisection.
-/

namespace ProseTrace.Text

/-- The number of UTF-16 units of a character: two beyond the basic plane. -/
def utf16Width (c : Char) : Nat := if c.toNat < 0x10000 then 1 else 2

def measure (width : Char → Nat) : List Char → Nat
  | [] => 0
  | c :: rest => width c + measure width rest

/-- The offsets of the characters and of the end, counted from `base`. -/
def offsetsFrom (width : Char → Nat) (base : Nat) : List Char → List Nat
  | [] => [base]
  | c :: rest => base :: offsetsFrom width (base + width c) rest

def offsets (width : Char → Nat) (text : List Char) : Array Nat :=
  (offsetsFrom width 0 text).toArray

private def bisect (table : Array Nat) (target low high : Nat) : Nat :=
  if low < high then
    let middle := (low + high) / 2
    if table.getD middle 0 < target then bisect table target (middle + 1) high
    else bisect table target low middle
  else low
termination_by high - low

/-- The first index whose entry is not below `target`, or the size if there is none, for a table
in ascending order. -/
def lowerBound (table : Array Nat) (target : Nat) : Nat := bisect table target 0 table.size

@[simp] theorem measure_nil (width : Char → Nat) : measure width [] = 0 := rfl

@[simp] theorem measure_cons (width : Char → Nat) (c : Char) (text : List Char) :
    measure width (c :: text) = width c + measure width text := rfl

@[simp] theorem measure_append (width : Char → Nat) (a b : List Char) :
    measure width (a ++ b) = measure width a + measure width b := by
  induction a with
  | nil => simp
  | cons c rest ih => simp [ih, Nat.add_assoc]

@[simp] theorem length_offsetsFrom (width : Char → Nat) (base : Nat) (text : List Char) :
    (offsetsFrom width base text).length = text.length + 1 := by
  induction text generalizing base with
  | nil => rfl
  | cons c rest ih => simp [offsetsFrom, ih]

/-- Entry `i` of the table is the measure of the first `i` characters. -/
theorem getElem?_offsetsFrom (width : Char → Nat) (base : Nat) (text : List Char) (i : Nat)
    (h : i ≤ text.length) :
    (offsetsFrom width base text)[i]? = some (base + measure width (text.take i)) := by
  induction text generalizing base i with
  | nil => simp_all [offsetsFrom]
  | cons c rest ih =>
    cases i with
    | zero => simp [offsetsFrom]
    | succ i =>
      have := ih (base + width c) i (by simpa using h)
      simp [offsetsFrom, this, Nat.add_assoc]

@[simp] theorem size_offsets (width : Char → Nat) (text : List Char) :
    (offsets width text).size = text.length + 1 := by
  simp [offsets]

private theorem bisect_spec {table : Array Nat} {target low high : Nat} (hle : low ≤ high)
    (hhigh : high ≤ table.size)
    (hmono : ∀ i j, i ≤ j → j < table.size → table.getD i 0 ≤ table.getD j 0)
    (hlow : ∀ i, i < low → table.getD i 0 < target)
    (hup : ∀ i, high ≤ i → i < table.size → target ≤ table.getD i 0) :
    bisect table target low high ≤ table.size ∧
      ∀ i, i < table.size → (i < bisect table target low high ↔ table.getD i 0 < target) := by
  fun_induction bisect table target low high with
  | case1 low high hlt middle hless ih =>
    refine ih (by omega) hhigh (fun i hi => ?_) hup
    have := hmono i middle (by omega) (by omega)
    omega
  | case2 low high hlt middle hless ih =>
    refine ih (by omega) (by omega) hlow (fun i hi hi' => ?_)
    have := hmono middle i hi hi'
    omega
  | case3 low high hlt =>
    refine ⟨by omega, fun i hi => ⟨hlow i, fun h => ?_⟩⟩
    have := hup i
    omega

/-- In an ascending table the indices before the bound are those whose entry is below the target. -/
theorem lt_lowerBound_iff {table : Array Nat} {target i : Nat}
    (hmono : ∀ i j, i ≤ j → j < table.size → table.getD i 0 ≤ table.getD j 0)
    (hi : i < table.size) : i < lowerBound table target ↔ table.getD i 0 < target :=
  (bisect_spec (Nat.zero_le _) (Nat.le_refl _) hmono (by simp) (by omega)).2 i hi

end ProseTrace.Text
