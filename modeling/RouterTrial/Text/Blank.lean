/-!
# White space

The characters with the Unicode property *White_Space*, and trimming by them. A text is handled
as its list of characters, so that trimming is `dropWhile` at either end.
-/

namespace RouterTrial.Text

/-! ### Ranges of code points -/

/-- The code point of `c` lies in one of the `ranges`, ends included. -/
def inRanges (ranges : List (Nat × Nat)) (c : Char) : Bool :=
  ranges.any fun range => range.1 ≤ c.toNat && c.toNat ≤ range.2

/-- The ranges of the property *White_Space*. -/
def blankRanges : List (Nat × Nat) :=
  [(0x09, 0x0D), (0x20, 0x20), (0x85, 0x85), (0xA0, 0xA0), (0x1680, 0x1680), (0x2000, 0x200A),
    (0x2028, 0x2029), (0x202F, 0x202F), (0x205F, 0x205F), (0x3000, 0x3000)]

/-- The character `c` is white space. -/
def isBlank (c : Char) : Bool := inRanges blankRanges c

/-! ### Trimming -/

/-- The text `cs` without the white space before it. -/
def trimStart (cs : List Char) : List Char := cs.dropWhile isBlank

/-- The text `cs` without the characters at its end of which `p` holds. -/
def dropEndWhile (p : Char → Bool) (cs : List Char) : List Char :=
  (cs.reverse.dropWhile p).reverse

/-- The text `cs` without the white space around it. -/
def trimChars (cs : List Char) : List Char := dropEndWhile isBlank (trimStart cs)

/-- The string `s` without the white space around it. -/
def trim (s : String) : String := String.ofList (trimChars s.toList)

/-- The string `s` without the white space behind it. -/
def trimEnd (s : String) : String := String.ofList (dropEndWhile isBlank s.toList)

/-- The string `s` has no other character than white space. -/
def isBlankText (s : String) : Bool := s.toList.all isBlank

/-- The longest start of the string that has at most `n` characters. -/
def clip (n : Nat) (s : String) : String := String.ofList (s.toList.take n)

theorem trim_toList (s : String) : (trim s).toList = trimChars s.toList := by
  simp [trim]

theorem clip_toList (n : Nat) (s : String) : (clip n s).toList = s.toList.take n := by
  simp [clip]

end RouterTrial.Text
