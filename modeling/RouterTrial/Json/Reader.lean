import RouterTrial.Json.Raw
import RouterTrial.Text.Utf8

/-!
# Reading JSON

The tree of a JSON text, by the grammar of RFC 8259 and nothing beyond it: no byte order mark, no
comments, no trailing commas, and no text behind the value. The leaves come first: white space,
numerals, strings with their escapes. The readers of values recur on a count of steps that the
length of the text bounds.
-/

namespace RouterTrial.Json

/-! ### White space and digits -/

/-- The character `c` is white space of a JSON text. -/
def isSpace (c : Char) : Bool := c == ' ' || c == '\t' || c == '\n' || c == '\r'

/-- The text `cs` without the white space before it. -/
def skipSpace (cs : List Char) : List Char := cs.dropWhile isSpace

/-- The digits at the start of the text `cs`, at least one, and the text behind them. -/
def readDigits (cs : List Char) : Option (List Char × List Char) :=
  match cs.takeWhile Char.isDigit with
  | [] => none
  | digits => some (digits, cs.dropWhile Char.isDigit)

/-! ### Numerals -/

/-- The digits before the point: a zero, or digits that start with another one. -/
def readWhole : List Char → Option (List Char × List Char)
  | '0' :: cs => some (['0'], cs)
  | cs => readDigits cs

/-- The digits behind the point, if there is one. -/
def readFraction : List Char → Option (List Char × List Char)
  | '.' :: cs => readDigits cs
  | cs => some ([], cs)

/-- The exponent, if there is one. -/
def readExponent : List Char → Option (Option Int × List Char)
  | e :: cs =>
    if e = 'e' ∨ e = 'E' then
      match cs with
      | '-' :: cs => (readDigits cs).map fun r => (some (-(Number.ofDigits r.1 : Int)), r.2)
      | '+' :: cs => (readDigits cs).map fun r => (some (Number.ofDigits r.1 : Int), r.2)
      | cs => (readDigits cs).map fun r => (some (Number.ofDigits r.1 : Int), r.2)
    else some (none, e :: cs)
  | [] => some (none, [])

/-- A numeral without its sign at the start of `cs`, and the text behind it. -/
def readUnsigned (negative : Bool) (cs : List Char) : Option (Numeral × List Char) :=
  (readWhole cs).bind fun whole =>
    (readFraction whole.2).bind fun fraction =>
      (readExponent fraction.2).map fun exponent =>
        (⟨negative, whole.1, fraction.1, exponent.1⟩, exponent.2)

/-- A numeral at the start of a text, and the text behind it. -/
def readNumeral : List Char → Option (Numeral × List Char)
  | '-' :: cs => readUnsigned true cs
  | cs => readUnsigned false cs

/-! ### Strings -/

/-- What stands for one character of a string, or for half of one. -/
inductive Piece where
  | char (c : Char)
  /-- The number `n` of a numbered escape. -/
  | unit (n : Nat)
  deriving Repr, DecidableEq

/-- The value of the hexadecimal digit `c`. -/
def hexValue? (c : Char) : Option Nat :=
  if '0' ≤ c ∧ c ≤ '9' then some (c.toNat - '0'.toNat)
  else if 'a' ≤ c ∧ c ≤ 'f' then some (c.toNat - 'a'.toNat + 10)
  else if 'A' ≤ c ∧ c ≤ 'F' then some (c.toNat - 'A'.toNat + 10)
  else none

/-- The number of the four hexadecimal digits `a`, `b`, `c` and `d`. -/
def hexUnit? (a b c d : Char) : Option Nat :=
  (hexValue? a).bind fun w =>
    (hexValue? b).bind fun x =>
      (hexValue? c).bind fun y => (hexValue? d).map fun z => ((w * 16 + x) * 16 + y) * 16 + z

/-- The character of a short escape. -/
def shortEscape? : Char → Option Char
  | '"' => some '"'
  | '\\' => some '\\'
  | '/' => some '/'
  | 'b' => some '\x08'
  | 'f' => some '\x0c'
  | 'n' => some '\n'
  | 'r' => some '\r'
  | 't' => some '\t'
  | _ => none

/-- The pieces of a string up to its closing quote, and the text behind that. -/
def readPieces : List Char → Option (List Piece × List Char)
  | [] => none
  | '"' :: cs => some ([], cs)
  | '\\' :: 'u' :: a :: b :: c :: d :: cs =>
    (hexUnit? a b c d).bind fun n => (readPieces cs).map fun r => (.unit n :: r.1, r.2)
  | '\\' :: e :: cs =>
    (shortEscape? e).bind fun c => (readPieces cs).map fun r => (.char c :: r.1, r.2)
  | c :: cs =>
    if c.toNat < 0x20 ∨ c = '\\' then none
    else (readPieces cs).map fun r => (.char c :: r.1, r.2)

/-- The unit `n` is the first half of a surrogate pair. -/
def isHighHalf (n : Nat) : Bool := 0xD800 ≤ n && n ≤ 0xDBFF

/-- The unit `n` is the second half of a surrogate pair. -/
def isLowHalf (n : Nat) : Bool := 0xDC00 ≤ n && n ≤ 0xDFFF

/-- The character of the surrogate pair of `high` and `low`. -/
def joinHalves (high low : Nat) : Char :=
  Char.ofNat (0x10000 + (high - 0xD800) * 0x400 + (low - 0xDC00))

/-- The characters of the pieces, if the halves of surrogate pairs stand together. -/
def joinPieces : List Piece → Option (List Char)
  | [] => some []
  | .char c :: ps => (joinPieces ps).map (c :: ·)
  | .unit high :: .unit low :: ps =>
    if isHighHalf high then
      if isLowHalf low then (joinPieces ps).map (joinHalves high low :: ·) else none
    else if isLowHalf high then none
    else (joinPieces (.unit low :: ps)).map (Char.ofNat high :: ·)
  | .unit n :: ps =>
    if isHighHalf n || isLowHalf n then none else (joinPieces ps).map (Char.ofNat n :: ·)

/-- The string that `cs` starts with behind its opening quote, and the text behind it. -/
def readString (cs : List Char) : Option (Option String × List Char) :=
  (readPieces cs).map fun r => ((joinPieces r.1).map String.ofList, r.2)

/-! ### Values -/

mutual

/-- A value at the start of a text, and the text behind it. -/
def readValue : Nat → List Char → Option (Raw × List Char)
  | 0, _ => none
  | steps + 1, cs =>
    match skipSpace cs with
    | 'n' :: 'u' :: 'l' :: 'l' :: cs => some (.null, cs)
    | 't' :: 'r' :: 'u' :: 'e' :: cs => some (.bool true, cs)
    | 'f' :: 'a' :: 'l' :: 's' :: 'e' :: cs => some (.bool false, cs)
    | '"' :: cs => (readString cs).map fun r => (.string r.1, r.2)
    | '[' :: cs =>
      match skipSpace cs with
      | ']' :: cs => some (.array [], cs)
      | cs => (readItems steps cs).map fun r => (.array r.1, r.2)
    | '{' :: cs =>
      match skipSpace cs with
      | '}' :: cs => some (.object [], cs)
      | cs => (readMembers steps cs).map fun r => (.object r.1, r.2)
    | cs => (readNumeral cs).map fun r => (.number r.1, r.2)

/-- The items of an array up to its end, at least one, and the text behind it. -/
def readItems : Nat → List Char → Option (List Raw × List Char)
  | 0, _ => none
  | steps + 1, cs =>
    (readValue steps cs).bind fun item =>
      match skipSpace item.2 with
      | ',' :: cs => (readItems steps cs).map fun r => (item.1 :: r.1, r.2)
      | ']' :: cs => some ([item.1], cs)
      | _ => none

/-- The members of an object up to its end, at least one, and the text behind it. -/
def readMembers : Nat → List Char → Option (List (Option String × Raw) × List Char)
  | 0, _ => none
  | steps + 1, cs =>
    match skipSpace cs with
    | '"' :: cs =>
      (readString cs).bind fun name =>
        match skipSpace name.2 with
        | ':' :: cs =>
          (readValue steps cs).bind fun value =>
            match skipSpace value.2 with
            | ',' :: cs => (readMembers steps cs).map fun r => ((name.1, value.1) :: r.1, r.2)
            | '}' :: cs => some ([(name.1, value.1)], cs)
            | _ => none
        | _ => none
    | _ => none

end

/-- The tree of the whole text `cs`. Every value takes a character at least, and at most two
steps. -/
def Raw.ofChars? (cs : List Char) : Option Raw :=
  match readValue (2 * cs.length + 1) cs with
  | some (v, rest) => if (skipSpace rest).isEmpty then some v else none
  | none => none

/-- The tree of the whole of `text`. -/
def Raw.ofText? (text : String) : Option Raw := Raw.ofChars? text.toList

/-- The value of the whole of `text`. -/
def ofText? (text : String) : Option Json := (Raw.ofText? text).bind Raw.value?

/-! ### Octets -/

/-- What a part of the octets of a text is read as. Only a string can have a malformed part, and it
has no characters then: what stands for the part are two halves of a surrogate pair that do not
stand together with anything. The character before them is none that may follow a backslash. -/
def partChars : Option Char → List Char
  | some c => [c]
  | none => "\ufffd\\ud800\\ud800".toList

/-- The tree of the `octets` of a whole text. -/
def Raw.ofOctets? (octets : List UInt8) : Option Raw :=
  Raw.ofChars? ((Text.Utf8.parts none octets).flatMap partChars)

end RouterTrial.Json
