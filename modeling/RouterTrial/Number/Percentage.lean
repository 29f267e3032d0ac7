import RouterTrial.Number.Double

/-!
# Percentages

The percentage of a part in a whole, as the reports print it. It is worked out in doubles: the two
counts, their quotient and its hundredfold are each rounded to a double, and the last one to an
integer, a half going up. The two roundings on the way can carry a tie to the side below.
-/

namespace RouterTrial.Number

/-- The largest percentage that is printed, `2 ^ 32 - 1`. -/
def maxPercentage : Nat := 4294967295

/-- The percentage of `part` in `whole`; nothing of nothing is zero. -/
def percentage (part whole : Nat) : Nat :=
  if whole = 0 then 0
  else
    let ratio := (Fraction.nearest ⟨part, 1⟩).quotient (Fraction.nearest ⟨whole, 1⟩)
    min (Fraction.nearest ⟨100 * ratio.num, ratio.den⟩).round maxPercentage

theorem percentage_zero (part : Nat) : percentage part 0 = 0 := rfl

end RouterTrial.Number
