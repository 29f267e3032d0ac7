/-!
# Nearest doubles of fractions

A fraction of natural numbers, rounded to 53 significant bits with ties to even: the value that a
double division or multiplication of positive numbers gives, as long as it neither overflows nor
loses precision near zero. The result is again a fraction, so that the rounding can be followed
in exact arithmetic.
-/

namespace RouterTrial.Number

/-- A fraction of natural numbers. -/
structure Fraction where
  num : Nat
  den : Nat
  deriving Repr, DecidableEq

/-- The integer nearest to `num / den`, the even one of two. -/
def roundEven (num den : Nat) : Nat :=
  let quotient := num / den
  let rest := num % den
  if 2 * rest < den then quotient
  else if den < 2 * rest then quotient + 1
  else quotient + quotient % 2

/-- The fraction `x` times a power of two, with the exponent `k`. -/
def Fraction.scale (x : Fraction) (k : Int) : Fraction :=
  if 0 ≤ k then ⟨x.num <<< k.toNat, x.den⟩ else ⟨x.num, x.den <<< (-k).toNat⟩

/-- The smallest number of 53 bits, `2 ^ 52`. -/
def leastMantissa : Nat := 4503599627370496

/-- The power of two that brings a positive fraction between `2 ^ 52` and `2 ^ 53`. -/
def Fraction.shift (x : Fraction) : Int :=
  let k : Int := 52 + (x.den.log2 : Int) - (x.num.log2 : Int)
  let y := x.scale k
  if y.num < leastMantissa * y.den then k + 1 else k

/-- The double nearest to the fraction `x`, the one with an even last bit of two. -/
def Fraction.nearest (x : Fraction) : Fraction :=
  if x.num = 0 then ⟨0, 1⟩
  else
    let y := x.scale x.shift
    Fraction.scale ⟨roundEven y.num y.den, 1⟩ (-x.shift)

/-- The quotient of the doubles `x` and `y`. -/
def Fraction.quotient (x y : Fraction) : Fraction :=
  Fraction.nearest ⟨x.num * y.den, x.den * y.num⟩

/-- The integer nearest to the fraction `x`, the larger one of two. -/
def Fraction.round (x : Fraction) : Nat := (2 * x.num + x.den) / (2 * x.den)

end RouterTrial.Number
