import RouterTrial.Text.Unprintable

/-!
# Quoted texts

The quoted form in which rejected values and lists of names are shown: between double quotes, with
short escapes for five characters and a numbered escape for every unprintable one, so that the
quoted text is always one visible line.
-/

namespace RouterTrial.Text

/-! ### One character -/

/-- The lower-case hexadecimal digits of `n`, without leading zeros. -/
def hexDigits (n : Nat) : List Char := Nat.toDigits 16 n

/-- The numbered escape of the character `c`: its code point between braces. -/
def numberedEscape (c : Char) : List Char :=
  ['\\', 'u', '\x7b'] ++ hexDigits c.toNat ++ ['\x7d']

/-- The character `c` as it stands in a quoted text. -/
def quoteChar (c : Char) : List Char :=
  match c with
  | '"' => ['\\', '"']
  | '\\' => ['\\', '\\']
  | '\n' => ['\\', 'n']
  | '\r' => ['\\', 'r']
  | '\t' => ['\\', 't']
  | '\x00' => ['\\', '0']
  | c => if isUnprintable c then numberedEscape c else [c]

/-! ### Texts and lists of texts -/

/-- The text `cs` between double quotes. -/
def quoteChars (cs : List Char) : List Char := '"' :: cs.flatMap quoteChar ++ ['"']

/-- The string `s` between double quotes. -/
def quote (s : String) : String := String.ofList (quoteChars s.toList)

/-- The list of the strings `names`, each quoted, between brackets. -/
def quoteList (names : List String) : String :=
  "[" ++ ", ".intercalate (names.map quote) ++ "]"

end RouterTrial.Text
