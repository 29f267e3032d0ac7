import RouterTrial.Json.Basic
import RouterTrial.Number.Shortest
import RouterTrial.Text.Quoted

/-!
# Writing JSON

One printer for both layouts of a JSON text: `Layout.compact`, without any white space, and
`Layout.pretty`, with every item on a line of its own, two spaces to a level. Empty arrays and
objects are closed at once in both.
-/

namespace RouterTrial.Json

/-! ### Strings and numbers -/

/-- The character `c` as it stands in a JSON string: short escapes for seven characters, a numbered
one for every other control character. -/
def escapeChar (c : Char) : List Char :=
  match c with
  | '"' => ['\\', '"']
  | '\\' => ['\\', '\\']
  | '\x08' => ['\\', 'b']
  | '\x0c' => ['\\', 'f']
  | '\n' => ['\\', 'n']
  | '\r' => ['\\', 'r']
  | '\t' => ['\\', 't']
  | c =>
    if c.toNat < 0x20 then
      ['\\', 'u', '0', '0', Nat.digitChar (c.toNat / 16), Nat.digitChar (c.toNat % 16)]
    else [c]

/-- The string `s` between quotes. -/
def writeString (s : String) : List Char := '"' :: s.toList.flatMap escapeChar ++ ['"']

/-- The integer `n` in decimal digits. -/
def writeInt (n : Int) : List Char :=
  if n < 0 then '-' :: Nat.toDigits 10 n.natAbs else Nat.toDigits 10 n.natAbs

/-- Doubles from `0.00001` to below ten quadrillion have their point in its place. -/
def floatLayout : Number.DecimalLayout := ⟨-5, 16⟩

/-- The double `x` in its shortest text; what is not a number or not finite is null. -/
def writeFloat (x : Float) : List Char :=
  if x.isFinite then floatLayout.ofBits x.toBits else ['n', 'u', 'l', 'l']

/-! ### Layouts -/

/-- The white space between the parts of a text. -/
structure Layout where
  /-- What starts an item at this depth. -/
  line : Nat → List Char
  /-- What stands between the name of a member and its value. -/
  colon : List Char

/-- No white space. -/
def Layout.compact : Layout := ⟨fun _ => [], [':']⟩

/-- A line for every item, two spaces to a level. -/
def Layout.pretty : Layout := ⟨fun depth => '\n' :: List.replicate (2 * depth) ' ', [':', ' ']⟩

/-! ### Values -/

mutual

/-- The text of a value at a `depth`, in the layout `l`. -/
def write (l : Layout) (depth : Nat) : Json → List Char
  | null => ['n', 'u', 'l', 'l']
  | bool true => ['t', 'r', 'u', 'e']
  | bool false => ['f', 'a', 'l', 's', 'e']
  | int n => writeInt n
  | float x => writeFloat x
  | string s => writeString s
  | array [] => ['[', ']']
  | array (v :: vs) =>
    '[' :: (l.line (depth + 1) ++ write l (depth + 1) v ++ writeItems l (depth + 1) vs
      ++ l.line depth ++ [']'])
  | object [] => ['{', '}']
  | object ((k, v) :: ms) =>
    '{' :: (l.line (depth + 1) ++ writeString k ++ l.colon ++ write l (depth + 1) v
      ++ writeMembers l (depth + 1) ms ++ l.line depth ++ ['}'])

/-- The items behind the first one, each behind a comma. -/
def writeItems (l : Layout) (depth : Nat) : List Json → List Char
  | [] => []
  | v :: vs => ',' :: (l.line depth ++ write l depth v ++ writeItems l depth vs)

/-- The members behind the first one, each behind a comma. -/
def writeMembers (l : Layout) (depth : Nat) : List (String × Json) → List Char
  | [] => []
  | (k, v) :: ms =>
    ',' :: (l.line depth ++ writeString k ++ l.colon ++ write l depth v ++ writeMembers l depth ms)

end

/-- The text of the value `v` without white space. -/
def compact (v : Json) : String := String.ofList (write Layout.compact 0 v)

/-- The text of the value `v` on lines. -/
def pretty (v : Json) : String := String.ofList (write Layout.pretty 0 v)

end RouterTrial.Json
