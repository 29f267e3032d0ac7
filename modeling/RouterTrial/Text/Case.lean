import RouterTrial.Text.Blank

/-!
# Letter case

Lower-case and upper-case forms, as far as they are ASCII text. A word is looked up by comparing
its form with ASCII names, so a character matters only if its form is made of ASCII characters;
every other character stands for itself, and no such text is an ASCII name.

Besides the ASCII letters, one character has an ASCII lower-case form (the kelvin sign), and ten
have an ASCII upper-case form, eight of them of two or three letters.
-/

namespace RouterTrial.Text

/-- The lower-case form of the character `c`, where it is ASCII. -/
def lowerChar (c : Char) : Char :=
  if c = '\u212a' then 'k' else if 'A' ≤ c ∧ c ≤ 'Z' then Char.ofNat (c.toNat + 32) else c

/-- The upper-case form of the character `c`, where it is ASCII. -/
def upperChar (c : Char) : List Char :=
  match c with
  | '\u00df' => ['S', 'S']
  | '\u0131' => ['I']
  | '\u017f' => ['S']
  | '\ufb00' => ['F', 'F']
  | '\ufb01' => ['F', 'I']
  | '\ufb02' => ['F', 'L']
  | '\ufb03' => ['F', 'F', 'I']
  | '\ufb04' => ['F', 'F', 'L']
  | '\ufb05' => ['S', 'T']
  | '\ufb06' => ['S', 'T']
  | c => if 'a' ≤ c ∧ c ≤ 'z' then [Char.ofNat (c.toNat - 32)] else [c]

/-- The lower-case form of the string `s`, where it is ASCII. -/
def lower (s : String) : String := String.ofList (s.toList.map lowerChar)

/-- The upper-case form of the string `s`, where it is ASCII. -/
def upper (s : String) : String := String.ofList (s.toList.flatMap upperChar)

theorem lower_toList (s : String) : (lower s).toList = s.toList.map lowerChar := by
  simp [lower]

end RouterTrial.Text
