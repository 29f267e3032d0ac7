import RouterTrial.Json.Basic
import RouterTrial.Number.Integer

/-!
# Numerals

A number as a JSON text writes it, and the value it stands for.

An integer that fits in 64 bits is exact. Every other numeral is a double, worked out in two
steps: the leading digits that fit in 64 bits are rounded to a double, and that is multiplied or
divided by one power of ten. A numeral whose double would be infinite has no value.
-/

namespace RouterTrial.Json

/-- A number as it is written, sign, digits and exponent. -/
structure Numeral where
  negative : Bool
  /-- The digits before the point. -/
  whole : List Char
  /-- The digits behind the point; none if there is no point. -/
  fraction : List Char
  /-- The exponent, if there is one. -/
  exponent : Option Int
  deriving Repr, DecidableEq

namespace Numeral

/-! ### Leading digits -/

/-- The leading digits, as one number, together with those `taken` before, as long as it fits in 64
bits, and the count of digits left over. -/
def lead (taken : Nat) : List Char → Nat × Nat
  | [] => (taken, 0)
  | c :: cs =>
    let next := 10 * taken + Number.digitValue c
    if next ≤ Number.maxUnsigned then lead next cs else (taken, cs.length + 1)

/-- The numeral `n` has neither a point nor an exponent. -/
def isInteger (n : Numeral) : Bool := n.fraction.isEmpty && n.exponent.isNone

/-! ### Doubles -/

/-- The power of ten with the exponent `k`, as a double. -/
def power (k : Nat) : Float := Float.ofScientific 1 false k

/-- The largest exponent of a `power` of ten that is a double. -/
def maxPower : Nat := 308

/-- The double `x` times a power of ten, if it is finite. -/
def scale? (x : Float) (e : Int) : Option Float :=
  let k := e.natAbs
  if 0 ≤ e then
    if k ≤ maxPower then (some (x * power k)).filter (·.isFinite)
    else if x == 0 then some x else none
  else if k ≤ maxPower then some (x / power k)
  else if k ≤ 2 * maxPower then some (x / power maxPower / power (k - maxPower))
  else some 0

/-- The double that the numeral `n` stands for, if it is finite. -/
def float? (n : Numeral) : Option Float :=
  let (whole, dropped) := lead 0 n.whole
  let (significand, ignored) := lead whole n.fraction
  let taken := n.fraction.length - ignored
  let x := (UInt64.ofNat significand).toFloat
  (scale? x ((dropped : Int) - taken + n.exponent.getD 0)).map fun y =>
    if n.negative then -y else y

/-! ### Values -/

/-- The value of the numeral `n`: an integer of 64 bits, or a double. The negative zero is a
double. -/
def value? (n : Numeral) : Option Json :=
  let whole := Number.ofDigits n.whole
  if n.isInteger then
    if n.negative then
      if 0 < whole ∧ Number.minSigned ≤ -(whole : Int) then some (.int (-(whole : Int)))
      else n.float?.map .float
    else if whole ≤ Number.maxUnsigned then some (.int whole)
    else n.float?.map .float
  else n.float?.map .float

end Numeral

end RouterTrial.Json
