import Mathlib.Algebra.Order.Field.Rat
import Mathlib.Tactic.FieldSimp
import Mathlib.Tactic.Linarith
import Mathlib.Tactic.NormNum
import Mathlib.Tactic.Ring
import ProseTrace.Decimal.Binary64

/-!
# Rounding up

How far the rounding to a binary64 value may go up: by half a unit of the last place, which is at
most a sixteenth for numbers below `2 ^ 50`.
-/

namespace ProseTrace.Proofs.Decimal.Rounding

open ProseTrace.Decimal ProseTrace.Decimal.Binary64

theorem divideToEven_le (num den : Nat) :
    2 * den * divideToEven num den ≤ 2 * num + den := by
  have hsplit := Nat.div_add_mod num den
  unfold divideToEven
  dsimp only
  split
  next hup =>
    have htwice : den ≤ 2 * (num % den) := by
      simp only [Bool.or_eq_true, decide_eq_true_eq, Bool.and_eq_true, beq_iff_eq] at hup
      omega
    calc 2 * den * (num / den + 1) = 2 * (den * (num / den)) + 2 * den := by ring
      _ ≤ 2 * num + den := by omega
  next =>
    calc 2 * den * (num / den) = 2 * (den * (num / den)) := by ring
      _ ≤ 2 * num + den := by omega

theorem floorLog2_lt {num den bits : Nat} (hnum : num ≠ 0) (h : num < 2 ^ bits * den) :
    floorLog2 num den < bits := by
  have hlow : 2 ^ num.log2 ≤ num := Nat.log2_self_le hnum
  have hhigh : den < 2 ^ (den.log2 + 1) := Nat.lt_log2_self
  have hlogs : num.log2 < bits + (den.log2 + 1) := by
    refine (Nat.pow_lt_pow_iff_right (Nat.lt_succ_self 1)).1 ?_
    calc 2 ^ num.log2 ≤ num := hlow
      _ < 2 ^ bits * den := h
      _ ≤ 2 ^ bits * 2 ^ (den.log2 + 1) := Nat.mul_le_mul_left _ hhigh.le
      _ = 2 ^ (bits + (den.log2 + 1)) := (Nat.pow_add ..).symm
  unfold floorLog2
  by_cases hsign : 0 ≤ (num.log2 : Int) - den.log2
  · simp only [hsign, if_true]
    split
    next hreaches =>
      -- the divisor fits so many times that the estimate is exact
      have hpow : 2 ^ ((num.log2 : Int) - den.log2).toNat < 2 ^ bits := by
        refine Nat.lt_of_mul_lt_mul_left (a := den) ?_
        calc den * 2 ^ ((num.log2 : Int) - den.log2).toNat
            = den <<< ((num.log2 : Int) - den.log2).toNat := (Nat.shiftLeft_eq ..).symm
          _ ≤ num := hreaches
          _ < 2 ^ bits * den := h
          _ = den * 2 ^ bits := Nat.mul_comm _ _
      have := (Nat.pow_lt_pow_iff_right (Nat.lt_succ_self 1)).1 hpow
      omega
    next => omega
  · simp only [hsign, if_false]
    split <;> omega

theorem toRat?_finite_neg (significand bits : Nat) :
    (Binary64.finite false significand (-bits)).toRat? =
      some ((significand : Rat) / 2 ^ bits) := by
  rw [toRat?, zpow_neg, zpow_natCast, ← div_eq_mul_inv]
  rfl

/-- The value of a quotient below `2 ^ 50` is a significand over a power of two: the quotient of the
scaled numerator, rounded. -/
theorem toRat?_ofQuotient {num den : Nat} (hnum : num ≠ 0) (hlt : num < 2 ^ 50 * den) :
    ∃ bits, 3 ≤ bits ∧ (ofQuotient false num den).toRat? =
      some ((divideToEven (num * 2 ^ bits) den : Rat) / 2 ^ bits) := by
  have hfloor : floorLog2 num den < 50 := floorLog2_lt hnum hlt
  obtain ⟨bits, hbits, hexponent⟩ : ∃ bits : Nat, 3 ≤ bits ∧
      max (floorLog2 num den - 52) minExponent = -(bits : Int) :=
    ⟨(-max (floorLog2 num den - 52) minExponent).toNat, by unfold minExponent; omega,
      by unfold minExponent; omega⟩
  have hneg : ¬ 0 ≤ -(bits : Int) := by omega
  refine ⟨bits, hbits, ?_⟩
  rw [ofQuotient, if_neg hnum]
  simp only [hexponent, hneg, if_false, neg_neg, Int.toNat_natCast, Nat.shiftLeft_eq]
  generalize divideToEven (num * 2 ^ bits) den = rounded
  by_cases hcarry : rounded = 2 * leastNormal
  · -- a carry halves the significand and doubles the unit
    have hfinite : ¬ maxExponent < -(bits : Int) + 1 := by unfold maxExponent; omega
    simp only [hcarry, if_true, hfinite, if_false]
    show some ((leastNormal : Rat) * 2 ^ (-(bits : Int) + 1)) = _
    rw [zpow_add_one₀ two_ne_zero, zpow_neg, zpow_natCast]
    push_cast
    field_simp
  · have hfinite : ¬ maxExponent < -(bits : Int) := by unfold maxExponent; omega
    simp only [hcarry, hfinite, if_false]
    exact toRat?_finite_neg rounded bits

/-- A number below `2 ^ 50` has a finite value nearest to it, which is not more than a sixteenth
above it. -/
theorem exists_toRat?_ofRat {q : Rat} (hq : 0 ≤ q) (hlt : q < 2 ^ 50) :
    ∃ value, (ofRat q).toRat? = some value ∧ value ≤ q + 1 / 16 := by
  obtain ⟨num, hnum⟩ := Int.eq_ofNat_of_zero_le (Rat.num_nonneg.2 hq)
  have hden : (0 : Rat) < q.den := by exact_mod_cast q.den_pos
  have hdiv : (num : Rat) / q.den = q := by
    conv_rhs => rw [← Rat.num_div_den q, hnum]
    rfl
  have hbound : num < 2 ^ 50 * q.den := by
    rw [← hdiv, div_lt_iff₀ hden] at hlt
    exact_mod_cast hlt
  rw [ofRat, decide_eq_false (not_lt.2 hq), hnum, Int.natAbs_natCast]
  by_cases hzero : num = 0
  · subst hzero
    refine ⟨0, by rw [ofQuotient, if_pos rfl]; simp [signedZero, toRat?], ?_⟩
    linarith
  · obtain ⟨bits, hbits, hvalue⟩ := toRat?_ofQuotient hzero hbound
    refine ⟨_, hvalue, ?_⟩
    have hround : (2 * q.den * divideToEven (num * 2 ^ bits) q.den : Rat) ≤
        2 * (num * 2 ^ bits) + q.den := by
      exact_mod_cast divideToEven_le (num * 2 ^ bits) q.den
    have hscale : (8 : Rat) ≤ 2 ^ bits :=
      calc (8 : Rat) = 2 ^ 3 := by norm_num
        _ ≤ 2 ^ bits := pow_le_pow_right₀ one_le_two hbits
    generalize (2 : Rat) ^ bits = scale at hround hscale ⊢
    generalize (divideToEven (num * 2 ^ bits) q.den : Rat) = rounded at hround ⊢
    have hhalf : rounded ≤ q * scale + 1 / 2 := by
      refine le_of_mul_le_mul_left ?_ hden
      have hnum' : (num : Rat) = q * q.den := (div_eq_iff hden.ne').1 hdiv
      rw [hnum'] at hround
      linarith
    rw [div_le_iff₀ (by linarith)]
    linarith

end ProseTrace.Proofs.Decimal.Rounding
