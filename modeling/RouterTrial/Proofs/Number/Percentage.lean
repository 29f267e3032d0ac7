import RouterTrial.Number.Integer
import RouterTrial.Number.Percentage
import RouterTrial.Proofs.Number.Nearest

/-!
# Percentages are rounded to the nearest integer

A percentage goes through four roundings to doubles before it is rounded to an integer, and their
errors come to less than a `2 ^ 50`th of it (`close_unrounded`). So for wholes that are not very
large it is the integer nearest to the exact percentage: the distance of the exact percentage from a
half is a fraction with the whole below, and the error is smaller than that, unless it is a half.

The hundred halves are doubles, but most of the ratios that they are percentages of are not. Which
way a half goes is a matter of the ratio alone (`percentage_of_half`). All go up, as they should,
except for four: 14.5, 28.5, 56.5 and 57.5 go down.
-/

namespace RouterTrial.Number

open Fraction

/-! ### Nearest integers -/

/-- The number `n` is the integer nearest to the percentage of `part` in `whole`, the larger one of
two that are equally near. -/
def HalfUp (part whole n : Nat) : Prop :=
  2 * whole * n ≤ 200 * part + whole ∧ 200 * part + whole < 2 * whole * (n + 1)

instance (part whole n : Nat) : Decidable (HalfUp part whole n) :=
  inferInstanceAs (Decidable (_ ∧ _))

/-- The number `n` is an integer nearest to a percentage that differs from the one of `part` in
`whole` by a `2 ^ 50`th of it at most. -/
def Near (part whole n : Nat) : Prop :=
  2 ^ 50 * (2 * whole * n) ≤ 2 ^ 50 * (200 * part + whole) + 200 * part ∧
    2 ^ 50 * (200 * part + whole) < 2 ^ 50 * (2 * whole * (n + 1)) + 200 * part

/-- The integers below the halves that `percentage` rounds down. -/
def lowHalves : List Nat := [14, 28, 56, 57]

/-- The percentage of `part` in `whole` is one of the halves that are rounded down. -/
def LowHalf (part whole : Nat) : Prop := ∃ k ∈ lowHalves, 200 * part = (2 * k + 1) * whole

instance (part whole : Nat) : Decidable (LowHalf part whole) :=
  inferInstanceAs (Decidable (∃ k ∈ lowHalves, _))

/-! ### Errors -/

/-- The ratio of the doubles nearest to `part` and `whole`. -/
def ratio (part whole : Nat) : Fraction :=
  ⟨(nearest ⟨part, 1⟩).num * (nearest ⟨whole, 1⟩).den,
    (nearest ⟨part, 1⟩).den * (nearest ⟨whole, 1⟩).num⟩

/-- The hundredfold of the fraction `x`. -/
def hundredfold (x : Fraction) : Fraction := ⟨100 * x.num, x.den⟩

/-- The percentage of `part` in `whole` before it is rounded to an integer. -/
def unrounded (part whole : Nat) : Fraction := (hundredfold (ratio part whole).nearest).nearest

private theorem percentage_eq {whole : Nat} (h : 0 < whole) (part : Nat) :
    percentage part whole = min (unrounded part whole).round maxPercentage := if_neg h.ne'

private theorem value_hundredfold (x : Fraction) : (hundredfold x).value = 100 * x.value := by
  rw [hundredfold, value, value]
  push_cast
  exact mul_div_assoc _ _ _

private theorem value_ratio (part whole : Nat) :
    (ratio part whole).value = (nearest ⟨part, 1⟩).value / (nearest ⟨whole, 1⟩).value := by
  rw [ratio, value, value, value]
  push_cast
  rw [div_div_div_eq]

private theorem den_ratio_pos (part : Nat) {whole : Nat} (h : 0 < whole) :
    0 < (ratio part whole).den :=
  Nat.mul_pos (den_nearest_pos _) (num_nearest_pos h.ne' Nat.one_pos)

/-- The errors of four roundings. -/
private theorem close_of_roundings {p w p' w' r t : ℚ} (hp : 0 ≤ p) (hw : 0 < w)
    (hp' : |p' - p| ≤ p / 2 ^ 53) (hw' : |w' - w| ≤ w / 2 ^ 53)
    (hr : |r - p' / w'| ≤ p' / w' / 2 ^ 53) (ht : |t - 100 * r| ≤ 100 * r / 2 ^ 53) :
    |t - 100 * (p / w)| ≤ 100 * (p / w) / 2 ^ 50 := by
  rw [abs_sub_le_iff] at hp' hw' hr ht ⊢
  have hp₁ : (1 - 1 / 2 ^ 53) * p ≤ p' := by linarith
  have hp₂ : p' ≤ (1 + 1 / 2 ^ 53) * p := by linarith
  have hw₁ : (1 - 1 / 2 ^ 53) * w ≤ w' := by linarith
  have hw₂ : w' ≤ (1 + 1 / 2 ^ 53) * w := by linarith
  have hwpos : 0 < (1 - 1 / 2 ^ 53) * w := mul_pos (by norm_num) hw
  have hx : 0 ≤ p / w := div_nonneg hp hw.le
  have hlow : (1 - 1 / 2 ^ 53) / (1 + 1 / 2 ^ 53) * (p / w) ≤ p' / w' := by
    rw [← mul_div_mul_comm]
    exact div_le_div₀ (le_trans (mul_nonneg (by norm_num) hp) hp₁) hp₁ (hwpos.trans_le hw₁) hw₂
  have hhigh : p' / w' ≤ (1 + 1 / 2 ^ 53) / (1 - 1 / 2 ^ 53) * (p / w) := by
    rw [← mul_div_mul_comm]
    exact div_le_div₀ (mul_nonneg (by norm_num) hp) hp₂ hwpos hw₁
  constructor <;> linarith

/-- The percentage that is rounded to an integer differs from the exact one by a `2 ^ 50`th of it at
most. -/
private theorem close_unrounded (part : Nat) {whole : Nat} (h : 0 < whole) :
    |(unrounded part whole).value - 100 * (part / whole)| ≤ 100 * (part / whole) / 2 ^ 50 := by
  have hpart := close_nearest (x := ⟨part, 1⟩) Nat.one_pos
  have hwhole := close_nearest (x := ⟨whole, 1⟩) Nat.one_pos
  rw [value_integer] at hpart hwhole
  have hratio := close_nearest (den_ratio_pos part h)
  rw [value_ratio] at hratio
  have hhundredfold := close_nearest (x := hundredfold (ratio part whole).nearest)
    (den_nearest_pos _)
  rw [value_hundredfold] at hhundredfold
  exact close_of_roundings (Nat.cast_nonneg part) (Nat.cast_pos.mpr h) hpart hwhole hratio
    hhundredfold

/-! ### The integer -/

private theorem round_bounds {x : Fraction} (hden : 0 < x.den) :
    (x.round : ℚ) ≤ x.value + 1 / 2 ∧ x.value + 1 / 2 < x.round + 1 := by
  have hpos : 0 < 2 * x.den := Nat.mul_pos Nat.two_pos hden
  have hlow : x.round * (2 * x.den) ≤ 2 * x.num + x.den := Nat.div_mul_le_self _ _
  have hhigh : 2 * x.num + x.den < (x.round + 1) * (2 * x.den) :=
    (Nat.div_lt_iff_lt_mul hpos).mp (Nat.lt_succ_self _)
  have hpos' : (0 : ℚ) < 2 * x.den := by exact_mod_cast hpos
  have hvalue : (x.value + 1 / 2) * (2 * x.den) = 2 * x.num + x.den := by
    rw [value]
    field_simp
  constructor
  · refine le_of_mul_le_mul_right ?_ hpos'
    rw [hvalue]
    exact_mod_cast hlow
  · refine lt_of_mul_lt_mul_right ?_ hpos'.le
    rw [hvalue]
    exact_mod_cast hhigh

/-- The number that `unrounded` is rounded to is never so large that it is cut off. -/
theorem percentage_eq_round {part whole : Nat} (h : 0 < whole) (hle : part ≤ whole) :
    percentage part whole = (unrounded part whole).round := by
  have hwhole : (0 : ℚ) < whole := Nat.cast_pos.mpr h
  have hratio : (part / whole : ℚ) ≤ 1 := (div_le_one hwhole).mpr (Nat.cast_le.mpr hle)
  have hclose := (abs_sub_le_iff.mp (close_unrounded part h)).1
  have hround := (round_bounds (x := unrounded part whole) (den_nearest_pos _)).1
  have hlt : ((unrounded part whole).round : ℚ) < 101 := by linarith
  rw [percentage_eq h, Nat.min_eq_left]
  exact (Nat.lt_of_lt_of_le (by exact_mod_cast hlt) (by decide : 101 ≤ maxPercentage)).le

/-- The percentage is nearest but for the errors of the roundings before it (`Near`). -/
theorem near_percentage {part whole : Nat} (h : 0 < whole) (hle : part ≤ whole) :
    Near part whole (percentage part whole) := by
  have hwhole : (0 : ℚ) < whole := Nat.cast_pos.mpr h
  have hclose := abs_sub_le_iff.mp (close_unrounded part h)
  have hround := round_bounds (x := unrounded part whole) (den_nearest_pos _)
  rw [← percentage_eq_round h hle] at hround
  generalize percentage part whole = n at hround ⊢
  have hscaled : (100 * (part / whole : ℚ)) * whole = 100 * part := by
    rw [mul_assoc, div_mul_cancel₀ _ hwhole.ne']
  have hlow : (n : ℚ) * whole
      ≤ (100 * (part / whole) + 100 * (part / whole) / 2 ^ 50 + 1 / 2) * whole :=
    mul_le_mul_of_nonneg_right (by linarith) hwhole.le
  have hhigh : (100 * (part / whole) - 100 * (part / whole) / 2 ^ 50 + 1 / 2 : ℚ) * whole
      < (n + 1) * whole :=
    mul_lt_mul_of_pos_right (by linarith) hwhole
  constructor
  · have hcast : 2 ^ 50 * (2 * (whole : ℚ) * n) ≤ 2 ^ 50 * (200 * part + whole) + 200 * part := by
      linarith
    exact_mod_cast hcast
  · have hcast : 2 ^ 50 * (200 * (part : ℚ) + whole)
        < 2 ^ 50 * (2 * whole * (n + 1)) + 200 * part := by
      linarith
    exact_mod_cast hcast

/-- Away from the halves, an error that is small enough changes nothing: `Near` is `HalfUp`. -/
private theorem halfUp_of_near {part whole n : Nat} (hpart : 200 * part < 2 ^ 50)
    (h : Near part whole n) (hhalf : ∀ k, 200 * part ≠ (2 * k + 1) * whole) :
    HalfUp part whole n := by
  obtain ⟨hlow, hhigh⟩ := h
  have hne : 200 * part + whole ≠ 2 * whole * (n + 1) := fun heq => hhalf n (by linarith)
  constructor <;> omega

/-! ### Halves -/

section Halves

variable {part whole k : Nat} (hhalf : 200 * part = (2 * k + 1) * whole)

include hhalf

private theorem halfUp_iff_of_half {n : Nat} (h : 0 < whole) : HalfUp part whole n ↔ n = k + 1 := by
  have hsum : 200 * part + whole = 2 * whole * (k + 1) := by linarith
  have hpos : 0 < 2 * whole := Nat.mul_pos Nat.two_pos h
  rw [HalfUp, hsum, Nat.mul_le_mul_left_iff hpos, Nat.mul_lt_mul_left hpos]
  omega

private theorem lowHalf_iff_of_half (h : 0 < whole) : LowHalf part whole ↔ k ∈ lowHalves := by
  refine ⟨?_, fun hk => ⟨k, hk, hhalf⟩⟩
  rintro ⟨k', hk', hhalf'⟩
  have hodd : 2 * k + 1 = 2 * k' + 1 := Nat.eq_of_mul_eq_mul_right h (hhalf.symm.trans hhalf')
  obtain rfl : k = k' := by omega
  exact hk'

private theorem floor_of_half (h : 0 < whole) : 100 * part / whole = k := by
  refine Nat.div_eq_of_lt_le ?_ ?_ <;> linarith

end Halves

/-- The percentage of the ratio whose percentage is a half, `k` and a half. -/
def halfPercentage (k : Nat) : Nat :=
  min (hundredfold (nearest ⟨2 * k + 1, 200⟩)).nearest.round maxPercentage

/-- The halves go up, apart from those above `lowHalves`. -/
private theorem halfPercentage_eq : ∀ k < 100,
    halfPercentage k = if k ∈ lowHalves then k else k + 1 := by
  decide +kernel

/-- How a half is rounded is a matter of the half alone: it goes as `halfPercentage` says. -/
theorem percentage_eq_halfPercentage {part whole k : Nat} (h : 0 < whole) (hpart : part < 2 ^ 53)
    (hwhole : whole < 2 ^ 53) (hhalf : 200 * part = (2 * k + 1) * whole) :
    percentage part whole = halfPercentage k := by
  have hden : 0 < (⟨2 * k + 1, 200⟩ : Fraction).den := Nat.succ_pos 199
  have hvalue : (ratio part whole).value = value ⟨2 * k + 1, 200⟩ := by
    have hwhole' : (whole : ℚ) ≠ 0 := Nat.cast_ne_zero.mpr h.ne'
    have hhalf' : 200 * (part : ℚ) = (2 * k + 1) * whole := by exact_mod_cast hhalf
    rw [value_ratio, value_nearest_of_lt hpart, value_nearest_of_lt hwhole, value,
      div_eq_div_iff hwhole' (by norm_num)]
    push_cast
    linarith
  rw [percentage_eq h, unrounded, nearest_congr (den_ratio_pos part h) hden hvalue, halfPercentage]

private theorem percentage_of_half {part whole k : Nat} (h : 0 < whole) (hle : part ≤ whole)
    (hwhole : whole < 2 ^ 53) (hhalf : 200 * part = (2 * k + 1) * whole) :
    percentage part whole = if k ∈ lowHalves then k else k + 1 := by
  have hk : (2 * k + 1) * whole ≤ 200 * whole := hhalf ▸ Nat.mul_le_mul_left 200 hle
  have hk' : 2 * k + 1 ≤ 200 := Nat.le_of_mul_le_mul_right hk h
  rw [percentage_eq_halfPercentage h (Nat.lt_of_le_of_lt hle hwhole) hwhole hhalf,
    halfPercentage_eq k (by omega)]

/-! ### Percentages -/

/-- Percentages go `HalfUp`, apart from the low halves, which go down. -/
theorem halfUp_iff {part whole : Nat} (h : 0 < whole) (hle : part ≤ whole)
    (hsmall : 200 * whole < 2 ^ 50) :
    (HalfUp part whole (percentage part whole) ↔ ¬LowHalf part whole) ∧
      (LowHalf part whole → percentage part whole = 100 * part / whole) := by
  by_cases hhalf : ∃ k, 200 * part = (2 * k + 1) * whole
  · obtain ⟨k, hhalf⟩ := hhalf
    rw [halfUp_iff_of_half hhalf h, lowHalf_iff_of_half hhalf h, floor_of_half hhalf h,
      percentage_of_half h hle (by omega) hhalf]
    by_cases hlow : k ∈ lowHalves
    · rw [if_pos hlow]
      exact ⟨iff_of_false (Nat.succ_ne_self k).symm (not_not.mpr hlow), fun _ => rfl⟩
    · rw [if_neg hlow]
      exact ⟨iff_of_true rfl hlow, fun h => absurd h hlow⟩
  · have hnot : ¬LowHalf part whole := fun ⟨k, _, hk⟩ => hhalf ⟨k, hk⟩
    have hup : HalfUp part whole (percentage part whole) :=
      halfUp_of_near (by omega) (near_percentage h hle) fun k hk => hhalf ⟨k, hk⟩
    exact ⟨iff_of_true hup hnot, fun hlow => absurd hlow hnot⟩

/-- **Percentages.** The percentage of a part in a whole is nearest to the exact one but for an
error of a `2 ^ 50`th of it (`Near`), and nothing of nothing is zero. If the whole is not larger
than the error allows, it is the integer nearest to the exact percentage, and a half goes up unless
it is one of four, which go down. -/
theorem near_and_halfUp_iff {part whole : Nat} (hle : part ≤ whole) :
    percentage part 0 = 0 ∧
      (0 < whole → Near part whole (percentage part whole)) ∧
      (0 < whole → 200 * whole < 2 ^ 50 →
        (HalfUp part whole (percentage part whole) ↔ ¬LowHalf part whole) ∧
        (LowHalf part whole → percentage part whole = 100 * part / whole)) :=
  ⟨percentage_zero part, fun h => near_percentage h hle, fun h => halfUp_iff h hle⟩

/-- The percentage of 29 in 200, which is 14.5, goes down. -/
theorem near_and_halfUp_iff_of_lowHalf :
    29 ≤ 200 ∧ Near 29 200 (percentage 29 200) ∧ LowHalf 29 200 ∧ percentage 29 200 = 14 := by
  have hle : 29 ≤ 200 := by decide
  have hlow : LowHalf 29 200 := by decide
  obtain ⟨-, hnear, hhalf⟩ := near_and_halfUp_iff hle
  exact ⟨hle, hnear (by decide), hlow, (hhalf (by decide) (by decide)).2 hlow⟩

/-- Percentages are not always `HalfUp`, the nearest integer, the larger one of two. -/
theorem not_halfUp_percentage : ¬∀ part whole : Nat, part ≤ whole → whole ≤ maxUnsigned →
    0 < whole → HalfUp part whole (percentage part whole) := by
  intro h
  have hup : HalfUp 29 200 (percentage 29 200) := h 29 200 (by decide) (by decide) (by decide)
  have hdown : ¬HalfUp 29 200 (percentage 29 200) := by decide +kernel
  exact hdown hup

end RouterTrial.Number
