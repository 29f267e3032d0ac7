/-!
# Shortest decimal texts of doubles

A finite double is written with the fewest digits that read back as the same double, and among
those texts with the one nearest to it. The search is exact: the double and the two ends of the
interval of numbers that round to it are integers over one denominator, and for one digit, two
digits and so on the two neighbours of the double on that decimal grid are tried.

Where the point goes is a matter of the format: `DecimalLayout`.
-/

namespace RouterTrial.Number

/-! ### The interval of a double -/

/-- The weight of the bit that a normal double does not write, `2 ^ 52`. -/
def hiddenBit : Nat := 4503599627370496

/-- A positive double, and the ends of the interval of numbers that round to it, over one
denominator. -/
structure Interval where
  low : Nat
  value : Nat
  high : Nat
  den : Nat
  /-- The ends round to the double as well. -/
  closed : Bool
  deriving Repr, DecidableEq

/-- The interval of the positive double with these `exponent` and `fraction` bits. -/
def Interval.ofFields (exponent fraction : Nat) : Interval :=
  let mantissa := if exponent = 0 then fraction else fraction + hiddenBit
  -- the double is `mantissa * 2 ^ (scale - 1077)`, in quarters of its last bit
  let scale := max exponent 1
  let below := if fraction = 0 ∧ 1 < exponent then 1 else 2
  let up := scale - 1077
  ⟨(4 * mantissa - below) <<< up, (4 * mantissa) <<< up, (4 * mantissa + 2) <<< up,
    1 <<< (1077 - scale), mantissa % 2 = 0⟩

/-- The interval `i` with every number divided by a power of ten, with the exponent `k`. -/
def Interval.shift (i : Interval) (k : Int) : Interval :=
  if 0 ≤ k then { i with den := i.den * Nat.pow 10 k.toNat }
  else
    let up := Nat.pow 10 (-k).toNat
    { i with low := i.low * up, value := i.value * up, high := i.high * up }

/-- The integer `n` lies in the interval `i`. -/
def Interval.contains (i : Interval) (n : Nat) : Bool :=
  if i.closed then i.low ≤ n * i.den ∧ n * i.den ≤ i.high
  else i.low < n * i.den ∧ n * i.den < i.high

/-- The integer of the interval `i` nearest to the double, if one of its two neighbours is in it;
the even one of two that are equally near. -/
def Interval.nearest? (i : Interval) : Option Nat :=
  let below := i.value / i.den
  let rest := i.value % i.den
  let above := below + 1
  match i.contains below, i.contains above with
  | true, true =>
    if 2 * rest < i.den ∨ (2 * rest = i.den ∧ below % 2 = 0) then some below else some above
  | true, false => some below
  | false, true => some above
  | false, false => none

/-! ### Digits -/

/-- The number of decimal digits of `n`; zero has none. -/
def digitCount (n : Nat) : Nat := if n = 0 then 0 else (Nat.toDigits 10 n).length

/-- The exponent of the leading decimal digit of the double of `i`. -/
def Interval.leading (i : Interval) : Int :=
  if i.den ≤ i.value then (digitCount (i.value / i.den) : Int) - 1
  else -(digitCount ((i.den - 1) / i.value) : Int)

/-- Decimal digits and the exponent of the leading one: the digits `d₁ d₂ …` with exponent `e`
write `d₁.d₂… * 10 ^ e`. -/
structure Decimal where
  digits : List Char
  exponent : Int
  deriving Repr, DecidableEq

/-- The integer times `10 ^ k`, without zeros at the end. -/
def Decimal.ofScaled (n : Nat) (k : Int) : Decimal :=
  let written := Nat.toDigits 10 n
  ⟨(written.reverse.dropWhile (· == '0')).reverse, k + (written.length : Int) - 1⟩

/-- Tries `count` digits, then one more, at most `tries` times. -/
def Interval.search (i : Interval) (count : Nat) : Nat → Decimal
  | 0 => ⟨[], 0⟩
  | tries + 1 =>
    let k := i.leading - (count : Int) + 1
    match (i.shift k).nearest? with
    | some n => Decimal.ofScaled n k
    | none => i.search (count + 1) tries

/-- The fewest digits that read back as the double of `i`; seventeen always do. -/
def Interval.shortest (i : Interval) : Decimal := i.search 1 17

/-! ### Layout -/

/-- Where the decimal point goes: exponents from `least` on and below `bound` are written with the
point in its place, all others behind an `e` with their sign. -/
structure DecimalLayout where
  least : Int
  bound : Int
  deriving Repr, DecidableEq

/-- So many zeros as `n` says. -/
def zeros (n : Nat) : List Char := List.replicate n '0'

/-- The text of the decimal `d` with the point in its place and at least one digit behind it. -/
def Decimal.positional (d : Decimal) : List Char :=
  if d.exponent < 0 then ['0', '.'] ++ zeros ((-d.exponent).toNat - 1) ++ d.digits
  else
    let whole := d.exponent.toNat + 1
    if d.digits.length ≤ whole then
      d.digits ++ zeros (whole - d.digits.length) ++ ['.', '0']
    else d.digits.take whole ++ ['.'] ++ d.digits.drop whole

/-- The text of the decimal `d` with its exponent. -/
def Decimal.scientific (d : Decimal) : List Char :=
  let mantissa :=
    match d.digits with
    | first :: second :: rest => first :: '.' :: second :: rest
    | digits => digits
  let sign := if d.exponent < 0 then '-' else '+'
  mantissa ++ ['e', sign] ++ Nat.toDigits 10 d.exponent.natAbs

/-- The text of the decimal `d`, in the layout `l`. -/
def DecimalLayout.write (l : DecimalLayout) (d : Decimal) : List Char :=
  if l.least ≤ d.exponent ∧ d.exponent < l.bound then d.positional else d.scientific

/-- The text of the finite double with these `bits`; both zeros keep their sign. -/
def DecimalLayout.ofBits (l : DecimalLayout) (bits : UInt64) : List Char :=
  let n := bits.toNat
  let fraction := n % hiddenBit
  let exponent := n / hiddenBit % 2048
  let sign := if n / hiddenBit / 2048 = 1 then ['-'] else []
  if exponent = 0 ∧ fraction = 0 then sign ++ ['0', '.', '0']
  else sign ++ l.write (Interval.ofFields exponent fraction).shortest

end RouterTrial.Number
