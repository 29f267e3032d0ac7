/-!
# Columns

Padding to a width counted in characters. A text that is wider than its column is kept whole.
-/

namespace RouterTrial.Text

/-- The text `s` with spaces behind it up to the `width`. -/
def padEnd (width : Nat) (s : String) : String :=
  s ++ String.ofList (List.replicate (width - s.length) ' ')

/-- The text `s` with spaces before it up to the `width`. -/
def padStart (width : Nat) (s : String) : String :=
  String.ofList (List.replicate (width - s.length) ' ') ++ s

/-- The number `n` in decimal digits, with zeros before it up to the `width`. -/
def padZeros (width n : Nat) : String :=
  String.ofList (List.replicate (width - (toString n).length) '0') ++ toString n

end RouterTrial.Text
