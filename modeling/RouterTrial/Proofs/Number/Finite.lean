import Mathlib.Tactic.IntervalCases
import Mathlib.Tactic.Ring

/-!
# Finite doubles

When the arithmetic of doubles stays finite, and in what order finite doubles stand.

A double unpacks to a sign, a mantissa and an exponent. `Fits k` bounds the exponent of a number
from above, and a double is finite exactly if it fits the largest exponent (`isFinite_iff_fits`);
`Normal j` bounds from below the exponent of a number that has all its 53 bits. Rounding is looked
at once (`roundWithAccuracy_cases`), and what it keeps of the two bounds is all that the single
operations need: a quotient by a number that is two at least is finite (`isFinite_div`), and so are
the integers of 64 bits (`isFinite_ofInt`), while the powers of ten up to the largest double are
normal (`normal_power`).

Doubles that are not numbers are ordered with nothing. Among finite ones `≤` is the negation of the
reversed `<` (`le_of_not_lt`, `not_lt_of_le`).
-/

namespace RouterTrial.Number

open Float.Model Float.Model.UnpackedFloat

/-! ### Bits -/

private theorem log2_le_of_lt {m n : Nat} (h : m < 2 ^ (n + 1)) : m.log2 ≤ n := by
  by_cases hm : m = 0
  · subst hm
    exact Nat.zero_le n
  · exact Nat.lt_succ_iff.mp ((Nat.log2_lt hm).mpr h)

private theorem div_two_pow_lt {m n k : Nat} (h : m.log2 + 1 ≤ n + k) : m / 2 ^ n < 2 ^ k := by
  rw [Nat.div_lt_iff_lt_mul (Nat.two_pow_pos n), ← Nat.pow_add]
  exact Nat.lt_log2_self.trans_le (Nat.pow_le_pow_right (by decide) (by omega))

private theorem log2_shiftLeft {m : Nat} (hm : m ≠ 0) (n : Nat) : (m <<< n).log2 = m.log2 + n := by
  have hm' : m <<< n ≠ 0 := by
    rw [Nat.shiftLeft_eq]
    exact Nat.mul_ne_zero hm (Nat.two_pow_pos n).ne'
  rw [Nat.log2_eq_iff hm', Nat.shiftLeft_eq]
  constructor
  · rw [Nat.pow_add]
    exact Nat.mul_le_mul_right _ (Nat.log2_self_le hm)
  · rw [Nat.add_right_comm, Nat.pow_add]
    exact Nat.mul_lt_mul_of_pos_right Nat.lt_log2_self (Nat.two_pow_pos n)

/-! ### Rounding -/

private theorem targetExponent_binary64 (total : Int) :
    Format.binary64.targetExponent total = max (total - 53) (-1074) := rfl

/-- The exponent of the number `m` times two to the `e` when it has been brought to 53 bits. -/
def roundedExponent (m : Nat) (e : Int) : Int := max e (max (totalExponent m e - 53) (-1074))

private theorem mantissa_shiftRight (em : ExtendedMantissa) (n : Nat) :
    (em >>> n).mantissa = em.mantissa / 2 ^ n := by
  change (n.repeat ExtendedMantissa.shiftRightOne em).mantissa = _
  induction n with
  | zero => exact (Nat.div_one _).symm
  | succ n ih =>
    change (n.repeat ExtendedMantissa.shiftRightOne em).mantissa / 2 = _
    rw [ih, Nat.div_div_eq_div_mul, Nat.pow_succ]

private theorem exponent_shiftToTargetExponent (m : Nat) (e : Int) (acc : Accuracy) :
    (shiftToTargetExponent .binary64 m e acc).2 = roundedExponent m e := by
  change e + ((max (totalExponent m e - 53) (-1074) - e).toNat : Int) = _
  unfold roundedExponent
  omega

private theorem mantissa_shiftToTargetExponent (m : Nat) (e : Int) (acc : Accuracy) :
    (shiftToTargetExponent .binary64 m e acc).1.mantissa
      = m / 2 ^ (roundedExponent m e - e).toNat := by
  change (ExtendedMantissa.ofMantissaAndAccuracy m acc >>>
    (Format.binary64.targetExponent (totalExponent m e) - e).toNat).mantissa = _
  have hshift : (Format.binary64.targetExponent (totalExponent m e) - e).toNat
      = (roundedExponent m e - e).toNat := by
    rw [targetExponent_binary64, roundedExponent]
    omega
  rw [mantissa_shiftRight, hshift]
  rcases acc with _ | (_ | _ | _) <;> rfl

private theorem roundedMantissa_bounds (em : ExtendedMantissa) :
    em.mantissa ≤ em.roundedMantissa ∧ em.roundedMantissa ≤ em.mantissa + 1 := by
  obtain ⟨m, _ | _, _ | _⟩ := em <;>
    simp only [ExtendedMantissa.roundedMantissa, ExtendedMantissa.accuracy,
      Accuracy.roundToNearestEven] <;> omega

/-- The number with the mantissa `m` and the exponent `e`, which is zero if the mantissa is. -/
def ofParts (s : Sign) (m : Nat) (e : Int) : UnpackedFloat :=
  if h : m = 0 then .zero s else .finite s m e (Nat.pos_of_ne_zero h)

/-- Rounding shifts twice: first down to 53 bits, of which the last may become one more, and then
for a carry out of them. -/
private theorem exists_roundWithAccuracy_eq (s : Sign) (m : Nat) (e : Int) (acc : Accuracy) :
    ∃ r, m / 2 ^ (roundedExponent m e - e).toNat ≤ r ∧
      r ≤ m / 2 ^ (roundedExponent m e - e).toNat + 1 ∧
      roundWithAccuracy .binary64 s m e acc =
        ofParts s (r / 2 ^ (roundedExponent r (roundedExponent m e) - roundedExponent m e).toNat)
          (roundedExponent r (roundedExponent m e)) := by
  have hbounds := roundedMantissa_bounds (shiftToTargetExponent .binary64 m e acc).1
  rw [mantissa_shiftToTargetExponent] at hbounds
  refine ⟨_, hbounds.1, hbounds.2, ?_⟩
  rw [← exponent_shiftToTargetExponent m e acc, ← mantissa_shiftToTargetExponent _ _ .exact,
    ← exponent_shiftToTargetExponent _ _ .exact]
  rfl

private theorem roundedExponent_of_lt {r : Nat} {e : Int} (hr : r < 2 ^ 53) (he : -1074 ≤ e) :
    roundedExponent r e = e := by
  have hlog : r.log2 ≤ 52 := log2_le_of_lt hr
  unfold roundedExponent totalExponent
  omega

private theorem roundedExponent_two_pow {e : Int} (he : -1074 ≤ e) :
    roundedExponent (2 ^ 53) e = e + 1 := by
  unfold roundedExponent totalExponent
  rw [Nat.log2_two_pow]
  omega

/-- What rounding does: bits are dropped until 53 are left, and the mantissa becomes what is left
or one more. Only a carry out of all 53 bits changes the exponent once more. -/
private theorem roundWithAccuracy_cases (s : Sign) (m : Nat) (e : Int) (acc : Accuracy) :
    ∃ r, m / 2 ^ (roundedExponent m e - e).toNat ≤ r ∧
      r ≤ m / 2 ^ (roundedExponent m e - e).toNat + 1 ∧
      (r = 0 ∧ roundWithAccuracy .binary64 s m e acc = .zero s ∨
        (∃ hpos : 0 < r, r < 2 ^ 53 ∧
          roundWithAccuracy .binary64 s m e acc = .finite s r (roundedExponent m e) hpos) ∨
        r = 2 ^ 53 ∧ roundWithAccuracy .binary64 s m e acc
          = .finite s (2 ^ 52) (roundedExponent m e + 1) (Nat.two_pow_pos 52)) := by
  have hlt : m / 2 ^ (roundedExponent m e - e).toNat < 2 ^ 53 := by
    apply div_two_pow_lt
    unfold roundedExponent totalExponent
    omega
  have hmin : -1074 ≤ roundedExponent m e := by unfold roundedExponent; omega
  obtain ⟨r, hle, hr, h⟩ := exists_roundWithAccuracy_eq s m e acc
  refine ⟨r, hle, hr, ?_⟩
  rw [h]
  by_cases hcarry : r < 2 ^ 53
  · rw [roundedExponent_of_lt hcarry hmin, Int.sub_self, Int.toNat_zero, Nat.pow_zero, Nat.div_one]
    rcases Nat.eq_zero_or_pos r with h0 | hpos
    · exact .inl ⟨h0, dif_pos h0⟩
    · exact .inr (.inl ⟨hpos, hcarry, dif_neg hpos.ne'⟩)
  · obtain rfl : r = 2 ^ 53 := by omega
    refine .inr (.inr ⟨rfl, ?_⟩)
    rw [roundedExponent_two_pow hmin,
      show (roundedExponent m e + 1 - roundedExponent m e).toNat = 1 by omega]
    rfl

/-! ### Bounds of the exponent -/

/-- The number is zero, or has a mantissa of 53 bits at most and an exponent up to `k`. -/
def Fits (k : Int) : UnpackedFloat → Prop
  | .zero _ => True
  | .finite _ m e _ => m < 2 ^ 53 ∧ e ≤ k
  | _ => False

/-- The number has a mantissa of 53 bits and an exponent from `j` on. -/
def Normal (j : Int) : UnpackedFloat → Prop
  | .finite _ m e _ => m.log2 = 52 ∧ j ≤ e
  | _ => False

instance (k : Int) : (u : UnpackedFloat) → Decidable (Fits k u)
  | .finite _ m e _ => inferInstanceAs (Decidable (m < 2 ^ 53 ∧ e ≤ k))
  | .zero _ => isTrue trivial
  | .infinity _ | .notANumber => isFalse id

instance (j : Int) : (u : UnpackedFloat) → Decidable (Normal j u)
  | .finite _ m e _ => inferInstanceAs (Decidable (m.log2 = 52 ∧ j ≤ e))
  | .zero _ | .infinity _ | .notANumber => isFalse id

theorem Fits.mono {j k : Int} (hjk : j ≤ k) {u : UnpackedFloat} (h : Fits j u) : Fits k u := by
  cases u with
  | infinity => exact h.elim
  | notANumber => exact h.elim
  | zero => trivial
  | finite => exact ⟨h.1, h.2.trans hjk⟩

theorem Normal.mono {i j : Int} (hij : i ≤ j) {u : UnpackedFloat} (h : Normal j u) :
    Normal i u := by
  cases u with
  | infinity => exact h.elim
  | notANumber => exact h.elim
  | zero => exact h.elim
  | finite => exact ⟨h.1, hij.trans h.2⟩

private theorem fits_roundWithAccuracy {s : Sign} {m : Nat} {e k : Int} {acc : Accuracy}
    (hk : -1074 ≤ k) (he : e ≤ k) (htotal : totalExponent m e ≤ k + 52) :
    Fits k (roundWithAccuracy .binary64 s m e acc) := by
  have hexp : roundedExponent m e ≤ k := by unfold roundedExponent; omega
  obtain ⟨r, -, hr, ⟨-, h⟩ | ⟨hpos, hlt, h⟩ | ⟨hcarry, h⟩⟩ := roundWithAccuracy_cases s m e acc
  · rw [h]
    trivial
  · rw [h]
    exact ⟨hlt, hexp⟩
  · rw [h]
    -- a carry moves the exponent, so there has to be room for it
    refine ⟨by decide, Int.lt_of_not_ge fun hfull => ?_⟩
    have : m / 2 ^ (roundedExponent m e - e).toNat < 2 ^ 52 := by
      apply div_two_pow_lt
      unfold totalExponent at htotal
      omega
    omega

private theorem normal_roundWithAccuracy {s : Sign} {m : Nat} {e j : Int} {acc : Accuracy}
    (hj : -1074 ≤ j) (hm : 52 ≤ m.log2) (htotal : j + 53 ≤ totalExponent m e) :
    Normal j (roundWithAccuracy .binary64 s m e acc) := by
  have hexp : j ≤ roundedExponent m e := by unfold roundedExponent; omega
  have hm0 : m ≠ 0 := by
    rintro rfl
    exact absurd hm (by decide)
  have hle : 2 ^ 52 ≤ m / 2 ^ (roundedExponent m e - e).toNat := by
    rw [Nat.le_div_iff_mul_le (Nat.two_pow_pos _), ← Nat.pow_add]
    refine (Nat.pow_le_pow_right (by decide) ?_).trans (Nat.log2_self_le hm0)
    unfold roundedExponent totalExponent at *
    omega
  obtain ⟨r, hr, -, ⟨rfl, h⟩ | ⟨hpos, hlt, h⟩ | ⟨hcarry, h⟩⟩ := roundWithAccuracy_cases s m e acc
  · exact absurd (hle.trans hr) (by decide)
  · rw [h]
    refine ⟨?_, hexp⟩
    rw [Nat.log2_eq_iff hpos.ne']
    exact ⟨hle.trans hr, hlt⟩
  · rw [h]
    exact ⟨Nat.log2_two_pow, by omega⟩

/-! ### Packing -/

private theorem fits_unpack {b : BitVec Format.binary64.numBits} {k : Int}
    (hb : unpackExponent b ≠ -1#_) (hk : -1074 ≤ k)
    (hexp : ((unpackExponent b).toNat : Int) - 1075 ≤ k) :
    Fits k (UnpackedFloat.unpack .binary64 b) := by
  unfold UnpackedFloat.unpack
  dsimp only
  rw [if_neg hb]
  by_cases h0 : unpackExponent b = 0#_
  · rw [if_pos h0]
    by_cases hm : unpackMantissa b = 0#_
    · rw [dif_pos hm]
      trivial
    · rw [dif_neg hm]
      refine ⟨(BitVec.isLt _).trans (by decide), ?_⟩
      rw [h0]
      exact hk
  · rw [if_neg h0]
    exact ⟨BitVec.isLt _, hexp⟩

private theorem normal_unpack {b : BitVec Format.binary64.numBits} {j : Int}
    (hb : unpackExponent b ≠ -1#_) (h0 : unpackExponent b ≠ 0#_)
    (hexp : j ≤ ((unpackExponent b).toNat : Int) - 1075) :
    Normal j (UnpackedFloat.unpack .binary64 b) := by
  unfold UnpackedFloat.unpack
  dsimp only
  rw [if_neg hb, if_neg h0]
  refine ⟨?_, hexp⟩
  have hle : 2 ^ 52 ≤ (1#1 ++ unpackMantissa b).toNat := by
    rw [BitVec.toNat_append]
    exact Nat.left_le_or
  rw [Nat.log2_eq_iff (by omega)]
  exact ⟨hle, BitVec.isLt _⟩

/-- The exponent field of a number with the mantissa `m` that is packed. -/
private theorem toNat_unpackExponent_pack {s : Sign} {m : Nat} {e : Int} (hpos : 0 < m)
    (he : e ≤ 971) :
    (unpackExponent (UnpackedFloat.pack .binary64 (.finite s m e hpos))).toNat =
      if m.log2 = 52 then (e + 1075).toNat else 0 := by
  have hbiased : e + Format.binary64.exponentBias + (52 : Nat) = e + 1075 := by
    rw [show Format.binary64.exponentBias = 1023 from rfl]
    omega
  unfold UnpackedFloat.pack
  simp only [hbiased]
  rw [if_neg (by omega)]
  split
  · rename_i h
    rw [unpackExponent_packComponents, if_pos (Nat.add_right_cancel (h : m.log2 + 1 = 53))]
    exact Nat.mod_eq_of_lt (by change _ < 2048; omega)
  · rename_i h
    rw [unpackExponent_packComponents, if_neg fun h' => h (congrArg (· + 1) h')]
    rfl

private theorem unpackExponent_ne {b : BitVec Format.binary64.numBits} {v : BitVec 11}
    (h : (unpackExponent b).toNat ≠ v.toNat) : unpackExponent b ≠ v :=
  fun h' => h (congrArg BitVec.toNat h')

/-- The bound `k` of a number is the bound of the double it is packed into. -/
private theorem fits_unpack_pack {u : UnpackedFloat} {k : Int} (hk : -1074 ≤ k) (hk' : k ≤ 971)
    (h : Fits k u) : Fits k (UnpackedFloat.unpack .binary64 (UnpackedFloat.pack .binary64 u)) := by
  cases u with
  | infinity => exact h.elim
  | notANumber => exact h.elim
  | zero s => cases s <;> trivial
  | finite s m e hpos =>
    have he : e ≤ k := h.2
    have hexp := toNat_unpackExponent_pack (s := s) hpos (he.trans hk')
    apply fits_unpack _ hk
    · rw [hexp]
      split <;> omega
    · apply unpackExponent_ne
      rw [hexp, show (-1#11).toNat = 2047 from rfl]
      split <;> omega

private theorem normal_unpack_pack {u : UnpackedFloat} {j : Int} (hj : -1074 ≤ j)
    (hfits : Fits 971 u) (h : Normal j u) :
    Normal j (UnpackedFloat.unpack .binary64 (UnpackedFloat.pack .binary64 u)) := by
  cases u with
  | infinity => exact h.elim
  | notANumber => exact h.elim
  | zero => exact h.elim
  | finite s m e hpos =>
    obtain ⟨hm, hje⟩ := h
    have he : e ≤ 971 := hfits.2
    have hexp := toNat_unpackExponent_pack (s := s) hpos he
    rw [if_pos hm] at hexp
    apply normal_unpack
    · apply unpackExponent_ne
      rw [hexp, show (-1#11).toNat = 2047 from rfl]
      omega
    · apply unpackExponent_ne
      rw [hexp, show (0#11).toNat = 0 from rfl]
      omega
    · rw [hexp]
      omega

private theorem unpack_ofModel_pack (u : UnpackedFloat) :
    (Float.ofModel (.pack u)).toModel.unpack
      = UnpackedFloat.unpack .binary64 (UnpackedFloat.pack .binary64 u) := rfl

/-- The finite doubles are those within the largest exponent, 971 in the sense of `Fits`. -/
theorem isFinite_iff_fits {x : Float} : x.isFinite = true ↔ Fits 971 x.toModel.unpack := by
  change x.toModel.unpack.isFinite = true ↔ _
  refine ⟨fun h => ?_, fun h => ?_⟩
  · have hexp : @unpackExponent .binary64 x.toModel.toBits.toBitVec ≠ -1#_ := by
      intro hinf
      unfold Float.Model.unpack UnpackedFloat.unpack at h
      dsimp only at h
      rw [if_pos hinf] at h
      split at h <;> exact Bool.noConfusion h
    have hne : (@unpackExponent .binary64 x.toModel.toBits.toBitVec).toNat ≠ 2047 :=
      fun h' => hexp (BitVec.eq_of_toNat_eq h')
    have hlt := (@unpackExponent .binary64 x.toModel.toBits.toBitVec).isLt
    apply fits_unpack hexp (by decide)
    change _ < 2048 at hlt
    omega
  · generalize x.toModel.unpack = u at h
    cases u with
    | infinity => exact h.elim
    | notANumber => exact h.elim
    | zero => rfl
    | finite => rfl

/-! ### Arithmetic -/

/-- The product of two finite numbers, with the bounds `j` and `k`. -/
theorem fits_mul {u v : UnpackedFloat} {j k : Int} (hjk : -1074 ≤ j + k + 54) (hu : Fits j u)
    (hv : Fits k v) : Fits (j + k + 54) (UnpackedFloat.mul .binary64 u v) := by
  cases u with
  | infinity => exact hu.elim
  | notANumber => exact hu.elim
  | zero =>
    cases v with
    | infinity => exact hv.elim
    | notANumber => exact hv.elim
    | zero => trivial
    | finite => trivial
  | finite s₁ m₁ e₁ hpos₁ =>
    cases v with
    | infinity => exact hv.elim
    | notANumber => exact hv.elim
    | zero => trivial
    | finite s₂ m₂ e₂ hpos₂ =>
      obtain ⟨hm₁, he₁⟩ := hu
      obtain ⟨hm₂, he₂⟩ := hv
      have hlog : (m₁ * m₂).log2 ≤ 105 :=
        log2_le_of_lt ((Nat.mul_lt_mul'' hm₁ hm₂).trans_eq (Nat.pow_add 2 53 53).symm)
      apply fits_roundWithAccuracy hjk (by omega)
      unfold totalExponent
      omega

/-- The quotient of a finite number `u` by one that is two at least, `v`. -/
theorem fits_div {u v : UnpackedFloat} (hu : Fits 971 u) (hv : Normal (-51) v) :
    Fits 971 (UnpackedFloat.div .binary64 u v) := by
  cases v with
  | infinity => exact hv.elim
  | notANumber => exact hv.elim
  | zero => exact hv.elim
  | finite s₂ m₂ e₂ hpos₂ =>
    cases u with
    | infinity => exact hu.elim
    | notANumber => exact hu.elim
    | zero => trivial
    | finite s₁ m₁ e₁ hpos₁ =>
      obtain ⟨hm₁, he₁⟩ := hu
      obtain ⟨hm₂, he₂⟩ := hv
      have hlog₁ : m₁.log2 ≤ 52 := log2_le_of_lt hm₁
      unfold UnpackedFloat.div divCore
      simp only [targetExponent_binary64]
      generalize hdiff : totalExponent m₁ e₁ - totalExponent m₂ e₂ = diff
      generalize ht : min (e₁ - e₂) (max (diff - 53) (-1074)) = t
      unfold totalExponent at hdiff
      -- the dividend is shifted before it is divided, so the quotient has the bits of the shift
      have hlog : ((m₁ <<< (e₁ - e₂ - t).toNat) / m₂).log2 ≤ (e₁ - e₂ - t).toNat := by
        apply log2_le_of_lt
        rw [Nat.div_lt_iff_lt_mul hpos₂, Nat.shiftLeft_eq]
        calc m₁ * 2 ^ (e₁ - e₂ - t).toNat
            < 2 ^ 53 * 2 ^ (e₁ - e₂ - t).toNat :=
              Nat.mul_lt_mul_of_pos_right hm₁ (Nat.two_pow_pos _)
          _ = 2 ^ ((e₁ - e₂ - t).toNat + 1) * 2 ^ 52 := by ring
          _ ≤ 2 ^ ((e₁ - e₂ - t).toNat + 1) * m₂ :=
              Nat.mul_le_mul_left _ (hm₂ ▸ Nat.log2_self_le hpos₂.ne')
      apply fits_roundWithAccuracy (by decide) (by omega)
      unfold totalExponent
      omega

theorem isFinite_div {x y : Float} (hx : x.isFinite = true) (hy : Normal (-51) y.toModel.unpack) :
    (x / y).isFinite = true :=
  isFinite_iff_fits.mpr (fits_unpack_pack (by decide) (by decide)
    (fits_div (isFinite_iff_fits.mp hx) hy))

theorem isFinite_neg {x : Float} (hx : x.isFinite = true) : (-x).isFinite = true := by
  rw [isFinite_iff_fits] at hx ⊢
  apply fits_unpack_pack (by decide) (by decide)
  generalize x.toModel.unpack = u at hx
  cases u with
  | infinity => exact hx.elim
  | notANumber => exact hx.elim
  | zero => trivial
  | finite => exact hx

/-! ### Integers -/

/-- The natural number `n` of 64 bits. -/
theorem fits_ofNat {n : Nat} (h : n < 2 ^ 64) : Fits 12 (UnpackedFloat.ofNat .binary64 n) := by
  unfold UnpackedFloat.ofNat UnpackedFloat.ofInt UnpackedFloat.normalize
  split
  · rename_i hlt
    exact absurd (compare_lt_iff_lt.mp hlt) (by omega)
  · trivial
  · rename_i hgt
    have hn : n ≠ 0 := by
      have := compare_gt_iff_gt.mp hgt
      omega
    have hlog : n.log2 ≤ 63 := log2_le_of_lt h
    unfold UnpackedFloat.round decreaseExponent
    simp only [Int.toNat_natCast, targetExponent_binary64]
    generalize (0 - max (totalExponent n 0 - 53) (-1074)).toNat = s
    apply fits_roundWithAccuracy (by decide) (by omega)
    unfold totalExponent
    rw [log2_shiftLeft hn]
    omega

theorem fits_toFloat (n : UInt64) : Fits 12 n.toFloat.toModel.unpack :=
  fits_unpack_pack (by decide) (by decide) (fits_ofNat n.toBitVec.isLt)

theorem isFinite_toFloat (n : UInt64) : n.toFloat.isFinite = true :=
  isFinite_iff_fits.mpr ((fits_toFloat n).mono (by decide))

/-- Numbers that are not both small, the digits `m` and the exponent `k`, are multiplied exactly and
rounded once. -/
private theorem ofScientific_eq {m k : Nat} (hm : m ≠ 0) (hk : k ≤ 2048)
    (h : ¬(m < 2 ^ 53 ∧ k ≤ 22)) :
    Float.ofScientific m false k = .ofModel (.pack
      (roundWithAccuracy .binary64 .positive (m <<< 53 * 10 ^ k) (-53) .exact)) := by
  have hround : UnpackedFloat.ofScientific .binary64 m k
      = roundWithAccuracy .binary64 .positive (m <<< 53 * 10 ^ k) (-53) .exact := by
    unfold UnpackedFloat.ofScientific
    rw [show Format.binary64.exponentBits = 11 from rfl, dif_neg hm, if_neg (by omega),
      if_neg (by omega), if_pos (Int.natCast_nonneg k)]
    rfl
  rw [← hround]
  unfold Float.ofScientific
  rw [dif_neg h]
  rfl

theorem isFinite_ofNat {n : Nat} (h : n < 2 ^ 64) : (Float.ofNat n).isFinite = true := by
  rw [isFinite_iff_fits]
  change Fits 971 (Float.ofScientific n false 0).toModel.unpack
  by_cases hsmall : n < 2 ^ 53 ∧ 0 ≤ 22
  · -- a number of 53 bits is multiplied by one
    unfold Float.ofScientific
    rw [dif_pos hsmall]
    refine fits_unpack_pack (by decide) (by decide) (Fits.mono (j := 12 + -52 + 54) (by decide) ?_)
    apply fits_mul (by decide) (fits_toFloat _)
    change Fits (-52) (Float.ofBits 0x3FF0000000000000).toModel.unpack
    decide
  · have hn : n ≠ 0 := by omega
    have hlog : n.log2 ≤ 63 := log2_le_of_lt h
    have htotal : totalExponent (n <<< 53) (-53) ≤ 64 := by
      unfold totalExponent
      rw [log2_shiftLeft hn]
      omega
    rw [ofScientific_eq hn (by decide) hsmall, Nat.pow_zero, Nat.mul_one, unpack_ofModel_pack]
    generalize n <<< 53 = m at htotal
    exact fits_unpack_pack (by decide) (by decide)
      (fits_roundWithAccuracy (by decide) (by decide) (htotal.trans (by decide)))

/-- An integer `n` of 64 bits, with a sign or without, is finite as a double. -/
theorem isFinite_ofInt {n : Int} (h : -2 ^ 64 < n ∧ n < 2 ^ 64) :
    (Float.ofInt n).isFinite = true := by
  cases n with
  | ofNat n => exact isFinite_ofNat (Int.ofNat_lt.mp h.2)
  | negSucc n => exact isFinite_neg (isFinite_ofNat (by omega))

/-! ### Powers of ten -/

/-- The powers of ten up to the largest double are eight at least, apart from the first one. -/
theorem normal_power {k : Nat} (h1 : 1 ≤ k) (h : k ≤ 308) :
    Normal (-49) (Float.ofScientific 1 false k).toModel.unpack := by
  by_cases hsmall : k ≤ 22
  · interval_cases k <;> decide
  -- the last one is so large that the bound of its bits does not keep it finite
  by_cases hlast : k = 308
  · subst hlast
    decide +kernel
  have hlow : 2 ^ 3 ≤ 10 ^ k :=
    le_trans (by decide) (Nat.pow_le_pow_right (n := 10) (by decide) h1)
  have hhigh : 10 ^ k < 2 ^ (1022 + 1) := by
    refine (Nat.pow_le_pow_right (n := 10) (by decide) (show k ≤ 307 by omega)).trans_lt ?_
    decide +kernel
  have hne : 10 ^ k ≠ 0 := (Nat.pow_pos (by decide)).ne'
  have hlog : 3 ≤ (10 ^ k).log2 := (Nat.le_log2 hne).mpr hlow
  have hlog' : (10 ^ k).log2 ≤ 1022 := log2_le_of_lt hhigh
  rw [ofScientific_eq one_ne_zero (by omega) (by omega), Nat.shiftLeft_eq, Nat.one_mul,
    Nat.mul_comm, ← Nat.shiftLeft_eq, unpack_ofModel_pack]
  have htotal : totalExponent (10 ^ k <<< 53) (-53) = (10 ^ k).log2 + 1 := by
    unfold totalExponent
    rw [log2_shiftLeft hne]
    omega
  have hbits : 52 ≤ (10 ^ k <<< 53).log2 := by
    rw [log2_shiftLeft hne]
    omega
  generalize 10 ^ k <<< 53 = m at *
  exact normal_unpack_pack (by decide)
    (fits_roundWithAccuracy (by decide) (by decide) (by omega))
    (normal_roundWithAccuracy (by decide) hbits (by omega))

/-! ### Order -/

theorem le_iff {x y : Float} : x ≤ y ↔
    ∃ o, UnpackedFloat.compare x.toModel.unpack y.toModel.unpack = some o ∧ o.isLE = true := by
  change decide (x.toModel ≤ y.toModel) = true ↔ _
  rw [decide_eq_true_iff]
  change UnpackedFloat.le _ _ = true ↔ _
  unfold UnpackedFloat.le
  rw [Option.any_eq_true]

theorem lt_iff {x y : Float} :
    x < y ↔ UnpackedFloat.compare x.toModel.unpack y.toModel.unpack = some .lt := by
  change decide (x.toModel < y.toModel) = true ↔ _
  rw [decide_eq_true_iff]
  change UnpackedFloat.lt _ _ = true ↔ _
  unfold UnpackedFloat.lt
  exact beq_iff_eq

private theorem compare_then_swap (e e' : Int) (m m' : Nat) :
    (compare e' e).then (compare m' m) = ((compare e e').then (compare m m')).swap := by
  rw [Ordering.swap_then, ← Std.OrientedCmp.eq_swap, ← Std.OrientedCmp.eq_swap]

private theorem compare_swap (u v : UnpackedFloat) :
    UnpackedFloat.compare v u = (UnpackedFloat.compare u v).map Ordering.swap := by
  rcases u with (_ | _) | _ | _ | ⟨_ | _, m, e, _⟩ <;>
    rcases v with (_ | _) | _ | _ | ⟨_ | _, m', e', _⟩ <;> try rfl
  · exact congrArg (some ·.swap) (compare_then_swap e e' m m')
  · exact congrArg some (compare_then_swap e e' m m')

private theorem exists_compare_of_fits {u v : UnpackedFloat} {j k : Int} (hu : Fits j u)
    (hv : Fits k v) : ∃ o, UnpackedFloat.compare u v = some o := by
  rcases u with _ | _ | _ | ⟨_ | _, m, e, _⟩ <;>
    rcases v with _ | _ | _ | ⟨_ | _, m', e', _⟩ <;>
    first | exact ⟨_, rfl⟩ | exact hu.elim | exact hv.elim

theorem not_lt_of_le {x y : Float} (h : y ≤ x) : ¬x < y := by
  rw [le_iff] at h
  obtain ⟨o, ho, hle⟩ := h
  rw [lt_iff, compare_swap, ho]
  cases o with
  | lt => decide
  | eq => decide
  | gt => exact absurd hle (by decide)

/-- Of two finite doubles `x` is the smaller one, or `y` is no larger. -/
theorem le_of_not_lt {x y : Float} (hx : x.isFinite = true) (hy : y.isFinite = true)
    (h : ¬x < y) : y ≤ x := by
  rw [isFinite_iff_fits] at hx hy
  obtain ⟨o, ho⟩ := exists_compare_of_fits hx hy
  rw [lt_iff, ho, Option.some_inj] at h
  rw [le_iff, compare_swap, ho]
  refine ⟨o.swap, rfl, ?_⟩
  cases o with
  | lt => exact absurd rfl h
  | eq => rfl
  | gt => rfl

/-- A negative double `x` is not above one. -/
theorem not_one_lt_of_neg {x : Float} (h : x < 0) : ¬1 < x := by
  have hzero : (0 : Float).toModel.unpack = .zero .positive := rfl
  have hone : (1 : Float).toModel.unpack = .finite .positive (2 ^ 52) (-52) (by decide) := rfl
  rw [lt_iff, hzero] at h
  rw [lt_iff, hone]
  generalize x.toModel.unpack = u at h
  rcases u with (_ | _) | _ | _ | ⟨_ | _, m, e, hpos⟩
  case infinity.negative => exact nofun
  case finite.negative => exact nofun
  all_goals cases h

end RouterTrial.Number
