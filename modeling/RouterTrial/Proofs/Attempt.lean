import RouterTrial.Attempt

/-!
# Identifiers of attempts

An identifier shows the number of its attempt in decimal digits, padded with zeros to five places
and as long as it must be behind that. Reading the digits back gives the number, so attempts with
different numbers have different identifiers, however large the numbers are.
-/

namespace RouterTrial

namespace Text

theorem toList_padZeros (width n : Nat) :
    (padZeros width n).toList
      = List.replicate (width - (toString n).length) '0' ++ Nat.toDigits 10 n := by
  have hdigits : (toString n).toList = Nat.toDigits 10 n := Nat.toList_repr
  rw [padZeros, String.toList_append, String.toList_ofList, hdigits]

/-- The zeros that `padZeros` puts before a number do not change what is read. -/
private theorem ofDigitChars_padZeros (width n : Nat) :
    Nat.ofDigitChars 10 (padZeros width n).toList 0 = n := by
  rw [toList_padZeros, Nat.ofDigitChars_append, Nat.ofDigitChars_replicate_zero, Nat.mul_zero,
    Nat.ofDigitChars_ten_toDigits]

theorem padZeros_injective (width : Nat) {n k : Nat} (h : padZeros width n = padZeros width k) :
    n = k := by
  rw [← ofDigitChars_padZeros width n, h, ofDigitChars_padZeros]

end Text

/-- Attempts with different numbers have different identifiers (`AttemptId.ofIndex`). -/
theorem AttemptId.ofIndex_injective : Function.Injective ofIndex := by
  intro n k h
  have htext : "PAY_SIM_" ++ Text.padZeros 5 n = "PAY_SIM_" ++ Text.padZeros 5 k :=
    congrArg AttemptId.text h
  exact Text.padZeros_injective 5 ((String.append_right_inj _).mp htext)

end RouterTrial
