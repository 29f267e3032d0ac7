import Mathlib.Algebra.Order.Field.Power
import Mathlib.Algebra.Order.Field.Rat
import Mathlib.Data.Rat.Cast.Order
import Mathlib.Tactic.FieldSimp
import Mathlib.Tactic.Linarith
import Mathlib.Tactic.NormNum
import Mathlib.Tactic.Positivity
import Mathlib.Tactic.Ring
import RouterTrial.Number.Double

/-!
# Nearest doubles

The fraction that `Fraction.nearest` gives for a positive fraction is off by a relative error of
`2 ^ -53` at most (`Fraction.close_nearest`), and not at all for integers of 53 bits
(`Fraction.value_nearest_of_lt`). Both come from the power of two by which the fraction is moved
between `2 ^ 52` and `2 ^ 53` (`Fraction.shift_bounds`). There is only one, so the result does not
depend on how the fraction is written (`Fraction.nearest_congr`).
-/

namespace RouterTrial.Number

/-! ### Rounding to an integer -/

/-- The integer `roundEven num den` is no more than a half away from the fraction. -/
private theorem roundEven_bounds (num : Nat) {den : Nat} (hden : 0 < den) :
    2 * num ≤ 2 * (den * roundEven num den) + den ∧
      2 * (den * roundEven num den) ≤ 2 * num + den := by
  have hdiv := Nat.div_add_mod num den
  have hmod := Nat.mod_lt num hden
  simp only [roundEven]
  split
  · omega
  · split
    · rw [Nat.mul_succ]
      omega
    · rcases Nat.mod_two_eq_zero_or_one (num / den) with heven | hodd
      · rw [heven, Nat.add_zero]
        omega
      · rw [hodd, Nat.mul_succ]
        omega

/-- The integer `n` is rounded to itself. -/
private theorem roundEven_one (n : Nat) : roundEven n 1 = n := by
  simp only [roundEven, Nat.mod_one, Nat.div_one, Nat.mul_zero, Nat.zero_lt_one, if_true]

/-- Equal fractions are rounded to the same integer by `roundEven`. -/
private theorem roundEven_congr {num den num' den' : Nat} (hden : 0 < den) (hden' : 0 < den')
    (h : num * den' = num' * den) : roundEven num den = roundEven num' den' := by
  have hquotient : num / den = num' / den' := by
    rw [← Nat.mul_div_mul_right num den hden', h, Nat.mul_comm den den',
      Nat.mul_div_mul_right num' den' hden]
  have hrest : num % den * den' = num' % den' * den := by
    rw [← Nat.mul_mod_mul_right, ← Nat.mul_mod_mul_right, h, Nat.mul_comm den den']
  have hbelow : 2 * (num % den) < den ↔ 2 * (num' % den') < den' := by
    rw [← Nat.mul_lt_mul_right hden', Nat.mul_assoc, hrest, ← Nat.mul_assoc, Nat.mul_comm den den',
      Nat.mul_lt_mul_right hden]
  have habove : den < 2 * (num % den) ↔ den' < 2 * (num' % den') := by
    rw [← Nat.mul_lt_mul_right hden', Nat.mul_assoc, hrest, ← Nat.mul_assoc, Nat.mul_comm den den',
      Nat.mul_lt_mul_right hden]
  simp only [roundEven, hquotient, hbelow, habove]

namespace Fraction

/-! ### Values -/

/-- The rational number of the fraction `x`. -/
def value (x : Fraction) : ℚ := x.num / x.den

theorem value_integer (n : Nat) : value ⟨n, 1⟩ = n := by rw [value, Nat.cast_one, div_one]

private theorem value_eq_zero_iff {x : Fraction} (hden : 0 < x.den) : x.value = 0 ↔ x.num = 0 := by
  rw [value, div_eq_zero_iff, Nat.cast_eq_zero, Nat.cast_eq_zero, or_iff_left hden.ne']

private theorem value_pos {x : Fraction} (hnum : x.num ≠ 0) (hden : 0 < x.den) : 0 < x.value := by
  rw [value]
  positivity

private theorem den_scale_pos {x : Fraction} (hden : 0 < x.den) (k : Int) :
    0 < (x.scale k).den := by
  rw [scale]
  split
  · exact hden
  · rw [Nat.shiftLeft_eq]
    positivity

private theorem value_scale (x : Fraction) (k : Int) : (x.scale k).value = x.value * 2 ^ k := by
  rw [scale]
  split
  · rename_i hk
    obtain ⟨n, rfl⟩ := Int.eq_ofNat_of_zero_le hk
    rw [value, value, Int.toNat_natCast, Nat.shiftLeft_eq, zpow_natCast]
    push_cast
    ring
  · rename_i hk
    obtain ⟨n, hn⟩ := Int.exists_eq_neg_ofNat (Int.le_of_not_le hk)
    rw [hn, neg_neg, value, value, Int.toNat_natCast, Nat.shiftLeft_eq, zpow_neg, zpow_natCast]
    push_cast
    field_simp

/-! ### The shift -/

/-- The fraction `x` lies within a factor of two of the quotient of the powers of two below its
parts. -/
private theorem log2_bounds {x : Fraction} (hnum : x.num ≠ 0) (hden : 0 < x.den) :
    (2 : ℚ) ^ ((x.num.log2 : ℤ) - x.den.log2 - 1) < x.value ∧
      x.value < 2 ^ ((x.num.log2 : ℤ) - x.den.log2 + 1) := by
  have hden' : (0 : ℚ) < x.den := Nat.cast_pos.mpr hden
  have hlow : (2 : ℚ) ^ (x.num.log2 : ℤ) ≤ x.num := by
    rw [zpow_natCast]
    exact_mod_cast Nat.log2_self_le hnum
  have hhigh : (x.num : ℚ) < 2 ^ ((x.num.log2 : ℤ) + 1) := by
    exact_mod_cast Nat.lt_log2_self (n := x.num)
  have hlow' : (2 : ℚ) ^ (x.den.log2 : ℤ) ≤ x.den := by
    rw [zpow_natCast]
    exact_mod_cast Nat.log2_self_le hden.ne'
  have hhigh' : (x.den : ℚ) < 2 ^ ((x.den.log2 : ℤ) + 1) := by
    exact_mod_cast Nat.lt_log2_self (n := x.den)
  rw [value, lt_div_iff₀ hden', div_lt_iff₀ hden']
  constructor
  · calc (2 : ℚ) ^ ((x.num.log2 : ℤ) - x.den.log2 - 1) * x.den
      _ < 2 ^ ((x.num.log2 : ℤ) - x.den.log2 - 1) * 2 ^ ((x.den.log2 : ℤ) + 1) := by gcongr
      _ = 2 ^ (x.num.log2 : ℤ) := by
        rw [← zpow_add₀ two_ne_zero]
        congr 1
        ring
      _ ≤ x.num := hlow
  · calc (x.num : ℚ)
      _ < 2 ^ ((x.num.log2 : ℤ) + 1) := hhigh
      _ = 2 ^ ((x.num.log2 : ℤ) - x.den.log2 + 1) * 2 ^ (x.den.log2 : ℤ) := by
        rw [← zpow_add₀ two_ne_zero]
        congr 1
        ring
      _ ≤ 2 ^ ((x.num.log2 : ℤ) - x.den.log2 + 1) * x.den := by gcongr

/-- The shift brings a positive fraction between `2 ^ 52` and `2 ^ 53`. -/
private theorem shift_bounds {x : Fraction} (hnum : x.num ≠ 0) (hden : 0 < x.den) :
    2 ^ 52 ≤ x.value * 2 ^ x.shift ∧ x.value * 2 ^ x.shift < 2 ^ 53 := by
  obtain ⟨hlow, hhigh⟩ := log2_bounds hnum hden
  set k : ℤ := 52 + (x.den.log2 : ℤ) - x.num.log2 with hk
  have hpos : (0 : ℚ) < 2 ^ k := by positivity
  have hlow' : (2 : ℚ) ^ 51 < x.value * 2 ^ k :=
    calc (2 : ℚ) ^ 51 = 2 ^ ((x.num.log2 : ℤ) - x.den.log2 - 1) * 2 ^ k := by
          rw [← zpow_add₀ two_ne_zero, hk, ← zpow_natCast]
          congr 1
          push_cast
          ring
      _ < x.value * 2 ^ k := by gcongr
  have hhigh' : x.value * 2 ^ k < (2 : ℚ) ^ 53 :=
    calc x.value * 2 ^ k < 2 ^ ((x.num.log2 : ℤ) - x.den.log2 + 1) * 2 ^ k := by gcongr
      _ = (2 : ℚ) ^ 53 := by
          rw [← zpow_add₀ two_ne_zero, hk, ← zpow_natCast]
          congr 1
          push_cast
          ring
  -- the test is whether the fraction is still too small
  have htest : (x.scale k).num < leastMantissa * (x.scale k).den ↔ x.value * 2 ^ k < 2 ^ 52 := by
    have hden' : (0 : ℚ) < (x.scale k).den := Nat.cast_pos.mpr (den_scale_pos hden k)
    rw [← value_scale, value, div_lt_iff₀ hden']
    simp only [leastMantissa]
    exact_mod_cast Iff.rfl
  rw [shift]
  simp only [← hk, htest]
  split
  · rename_i hsmall
    rw [zpow_add_one₀ two_ne_zero, ← mul_assoc]
    constructor <;> linarith
  · rename_i hlarge
    exact ⟨not_lt.mp hlarge, hhigh'⟩

/-- A larger power of two than `k` would bring a fraction out of there. -/
private theorem shift_le {v : ℚ} {k k' : ℤ} (hk : 2 ^ 52 ≤ v * 2 ^ k ∧ v * 2 ^ k < 2 ^ 53)
    (hk' : 2 ^ 52 ≤ v * 2 ^ k' ∧ v * 2 ^ k' < 2 ^ 53) : k ≤ k' := by
  by_contra hlt
  have hv : 0 < v := by
    have hpow : (0 : ℚ) < 2 ^ k := by positivity
    exact (mul_pos_iff_of_pos_right hpow).mp (lt_of_lt_of_le (by norm_num) hk.1)
  have hle : (2 : ℚ) ^ (k' + 1) ≤ 2 ^ k := zpow_le_zpow_right₀ one_le_two (by omega)
  have hdouble : v * 2 ^ k' * 2 ≤ v * 2 ^ k := by
    rw [mul_assoc, ← zpow_add_one₀ two_ne_zero]
    gcongr
  linarith [hk.2, hk'.1]

private theorem shift_congr {x y : Fraction} (hx : x.num ≠ 0) (hxden : 0 < x.den) (hy : y.num ≠ 0)
    (hyden : 0 < y.den) (h : x.value = y.value) : x.shift = y.shift := by
  have hbounds := shift_bounds hx hxden
  have hbounds' := shift_bounds hy hyden
  rw [h] at hbounds
  exact le_antisymm (shift_le hbounds hbounds') (shift_le hbounds' hbounds)

/-! ### The nearest double -/

private theorem value_eq_iff {x y : Fraction} (hx : 0 < x.den) (hy : 0 < y.den) :
    x.value = y.value ↔ x.num * y.den = y.num * x.den := by
  have hx' : (x.den : ℚ) ≠ 0 := Nat.cast_ne_zero.mpr hx.ne'
  have hy' : (y.den : ℚ) ≠ 0 := Nat.cast_ne_zero.mpr hy.ne'
  rw [value, value, div_eq_div_iff hx' hy']
  exact_mod_cast Iff.rfl

/-- The fractions `x` and `y` of one value have the same nearest double. -/
theorem nearest_congr {x y : Fraction} (hx : 0 < x.den) (hy : 0 < y.den) (h : x.value = y.value) :
    x.nearest = y.nearest := by
  have hzero : x.num = 0 ↔ y.num = 0 := by
    rw [← value_eq_zero_iff hx, h, value_eq_zero_iff hy]
  rw [nearest, nearest]
  by_cases hnum : x.num = 0
  · rw [if_pos hnum, if_pos (hzero.mp hnum)]
  · have hshift := shift_congr hnum hx (mt hzero.mpr hnum) hy h
    have hround : roundEven (x.scale x.shift).num (x.scale x.shift).den
        = roundEven (y.scale x.shift).num (y.scale x.shift).den := by
      have hden := den_scale_pos hx x.shift
      have hden' := den_scale_pos hy x.shift
      refine roundEven_congr hden hden' ((value_eq_iff hden hden').mp ?_)
      rw [value_scale, value_scale, h]
    rw [if_neg hnum, if_neg (mt hzero.mpr hnum), ← hshift]
    simp only [hround]

theorem den_nearest_pos (x : Fraction) : 0 < x.nearest.den := by
  rw [nearest]
  split
  · exact Nat.one_pos
  · exact den_scale_pos Nat.one_pos _

theorem value_nearest {x : Fraction} (h : x.num ≠ 0) :
    x.nearest.value
      = roundEven (x.scale x.shift).num (x.scale x.shift).den * (2 : ℚ) ^ (-x.shift) := by
  rw [nearest, if_neg h]
  simp only [value_scale, value_integer]

private theorem abs_roundEven_sub_le {x : Fraction} (hden : 0 < x.den) :
    |(roundEven x.num x.den : ℚ) - x.value| ≤ 1 / 2 := by
  obtain ⟨hlow, hhigh⟩ := roundEven_bounds x.num hden
  have hden' : (0 : ℚ) < x.den := Nat.cast_pos.mpr hden
  have hlow' : 2 * (x.num : ℚ) ≤ 2 * (x.den * roundEven x.num x.den) + x.den := by
    exact_mod_cast hlow
  have hhigh' : 2 * ((x.den : ℚ) * roundEven x.num x.den) ≤ 2 * x.num + x.den := by
    exact_mod_cast hhigh
  have hvalue : x.value * x.den = x.num := div_mul_cancel₀ _ hden'.ne'
  rw [← hvalue] at hlow' hhigh'
  rw [abs_le]
  constructor
  · refine le_of_mul_le_mul_right ?_ hden'
    linarith
  · refine le_of_mul_le_mul_right ?_ hden'
    linarith

/-- **Nearest doubles.** The relative error is at most `2 ^ -53`. -/
theorem close_nearest {x : Fraction} (hden : 0 < x.den) :
    |x.nearest.value - x.value| ≤ x.value / 2 ^ 53 := by
  by_cases hnum : x.num = 0
  · have hvalue : x.value = 0 := (value_eq_zero_iff hden).mpr hnum
    have hnearest : x.nearest.value = 0 := by
      rw [nearest, if_pos hnum]
      exact (value_eq_zero_iff Nat.one_pos).mpr rfl
    rw [hvalue, hnearest, sub_zero, abs_zero, zero_div]
  · have hround := abs_roundEven_sub_le (den_scale_pos hden x.shift)
    rw [value_scale] at hround
    have hpow : (2 : ℚ) ^ x.shift * 2 ^ (-x.shift) = 1 := by
      rw [← zpow_add₀ two_ne_zero, add_neg_cancel, zpow_zero]
    have hpos : (0 : ℚ) < 2 ^ (-x.shift) := by positivity
    have hscaled : x.nearest.value - x.value
        = (roundEven (x.scale x.shift).num (x.scale x.shift).den - x.value * 2 ^ x.shift)
          * 2 ^ (-x.shift) := by
      rw [sub_mul, ← value_nearest hnum, mul_assoc, hpow, mul_one]
    have hlarge : (1 : ℚ) / 2 ≤ x.value * 2 ^ x.shift / 2 ^ 53 := by
      rw [le_div_iff₀ (by positivity)]
      linarith [(shift_bounds hnum hden).1]
    calc |x.nearest.value - x.value|
      _ = |roundEven (x.scale x.shift).num (x.scale x.shift).den - x.value * 2 ^ x.shift|
          * 2 ^ (-x.shift) := by rw [hscaled, abs_mul, abs_of_pos hpos]
      _ ≤ x.value * 2 ^ x.shift / 2 ^ 53 * 2 ^ (-x.shift) := by
        gcongr
        exact hround.trans hlarge
      _ = x.value / 2 ^ 53 := by rw [div_mul_eq_mul_div, mul_assoc, hpow, mul_one]

/-- No positive fraction `x` is rounded to zero. -/
theorem num_nearest_pos {x : Fraction} (hnum : x.num ≠ 0) (hden : 0 < x.den) :
    0 < x.nearest.num := by
  refine Nat.pos_of_ne_zero fun hzero => ?_
  have hpos := value_pos hnum hden
  have hclose := (abs_sub_le_iff.mp (close_nearest hden)).2
  rw [(value_eq_zero_iff (den_nearest_pos x)).mpr hzero] at hclose
  linarith

/-- The integer `n` of 53 bits is a double. -/
theorem value_nearest_of_lt {n : Nat} (h : n < 2 ^ 53) : (nearest ⟨n, 1⟩).value = n := by
  by_cases hn : n = 0
  · subst hn
    exact (value_eq_zero_iff Nat.one_pos).mpr rfl
  · have hshift : 0 ≤ shift ⟨n, 1⟩ := by
      by_contra hneg
      have hlow := (shift_bounds (x := ⟨n, 1⟩) hn Nat.one_pos).1
      have hpow : (2 : ℚ) ^ shift ⟨n, 1⟩ ≤ 2 ^ (-1 : ℤ) :=
        zpow_le_zpow_right₀ one_le_two (by omega)
      have hn' : (n : ℚ) < 2 ^ 53 := by exact_mod_cast h
      have hhalf : (n : ℚ) * 2 ^ shift ⟨n, 1⟩ ≤ n * 2 ^ (-1 : ℤ) := by gcongr
      rw [value_integer] at hlow
      rw [zpow_neg_one] at hhalf
      linarith
    have hinteger : (scale ⟨n, 1⟩ (shift ⟨n, 1⟩)).den = 1 := by rw [scale, if_pos hshift]
    have hscaled := value_scale ⟨n, 1⟩ (shift ⟨n, 1⟩)
    rw [value, hinteger, Nat.cast_one, div_one, value_integer] at hscaled
    rw [value_nearest hn, hinteger, roundEven_one, hscaled, mul_assoc, ← zpow_add₀ two_ne_zero,
      add_neg_cancel, zpow_zero, mul_one]

end Fraction

end RouterTrial.Number
