/-!
# Integers in settings

An integer is an optional sign and ASCII digits, in a range of 64 bits; nothing else is read. An
unsigned number takes no minus sign, not even before a zero.
-/

namespace RouterTrial.Number

/-- The value of the digit `c`. -/
def digitValue (c : Char) : Nat := c.toNat - '0'.toNat

/-- The number that the digits `cs` write, the most significant digit first. -/
def ofDigits (cs : List Char) : Nat := cs.foldl (fun n c => 10 * n + digitValue c) 0

/-- The number without a sign that `cs` writes. -/
def natural? (cs : List Char) : Option Nat :=
  if cs.isEmpty || !cs.all Char.isDigit then none else some (ofDigits cs)

/-- A number with an optional sign. -/
def integer? : List Char → Option Int
  | '-' :: cs => (natural? cs).map fun n => -(n : Int)
  | '+' :: cs => (natural? cs).map fun n => (n : Int)
  | cs => (natural? cs).map fun n => (n : Int)

/-- The largest number of 64 bits, `2 ^ 64 - 1`. -/
def maxUnsigned : Nat := 18446744073709551615

/-- The smallest signed number of 64 bits, `-2 ^ 63`. -/
def minSigned : Int := -9223372036854775808

/-- The largest signed number of 64 bits, `2 ^ 63 - 1`. -/
def maxSigned : Int := 9223372036854775807

/-- The signed number of 64 bits that `s` writes. -/
def signed? (s : String) : Option Int :=
  (integer? s.toList).filter fun n => minSigned ≤ n ∧ n ≤ maxSigned

/-- The unsigned number of 64 bits that `s` writes. -/
def unsigned? (s : String) : Option Nat :=
  match s.toList with
  | '+' :: cs => (natural? cs).filter (· ≤ maxUnsigned)
  | cs => (natural? cs).filter (· ≤ maxUnsigned)

end RouterTrial.Number
