/-!
# Decoding octets

UTF-8 octets as characters. A part that is no character shows as `none`: an octet that starts
nothing, or the longest start of a character that is broken off. `decode?` refuses such parts, and
`decodeLossy` puts the replacement character for each.
-/

namespace RouterTrial.Text.Utf8

/-! ### One octet -/

/-- A character that has begun: the bits so far, how many octets are missing, and where the next
one has to lie. -/
structure Pending where
  bits : Nat
  missing : Nat
  low : Nat
  high : Nat
  deriving Repr, DecidableEq

/-- What the octet `b` begins: a character with none missing, or a longer one. The bounds of the
second octet leave out overlong forms, surrogates and numbers above the last code point. -/
def begin? (b : Nat) : Option Pending :=
  if b < 0x80 then some ⟨b, 0, 0, 0⟩
  else if b < 0xC2 then none
  else if b < 0xE0 then some ⟨b - 0xC0, 1, 0x80, 0xBF⟩
  else if b = 0xE0 then some ⟨0, 2, 0xA0, 0xBF⟩
  else if b = 0xED then some ⟨0xD, 2, 0x80, 0x9F⟩
  else if b < 0xF0 then some ⟨b - 0xE0, 2, 0x80, 0xBF⟩
  else if b = 0xF0 then some ⟨0, 3, 0x90, 0xBF⟩
  else if b < 0xF4 then some ⟨b - 0xF0, 3, 0x80, 0xBF⟩
  else if b = 0xF4 then some ⟨4, 3, 0x80, 0x8F⟩
  else none

/-- What the octet `b` gives where no character has begun. -/
def start (b : Nat) : List (Option Char) × Option Pending :=
  match begin? b with
  | none => ([none], none)
  | some p => if p.missing = 0 then ([some (Char.ofNat p.bits)], none) else ([], some p)

/-- What the octet `b` gives behind the start `p` of a character. -/
def follow (p : Pending) (b : Nat) : List (Option Char) × Option Pending :=
  if p.low ≤ b ∧ b ≤ p.high then
    let bits := 64 * p.bits + b % 64
    if p.missing ≤ 1 then ([some (Char.ofNat bits)], none)
    else ([], some ⟨bits, p.missing - 1, 0x80, 0xBF⟩)
  else
    let fresh := start b
    (none :: fresh.1, fresh.2)

/-! ### Texts -/

/-- The characters of octets behind the start of a character, if one has begun. -/
def parts : Option Pending → List UInt8 → List (Option Char)
  | none, [] => []
  | some _, [] => [none]
  | none, b :: bs => (start b.toNat).1 ++ parts (start b.toNat).2 bs
  | some p, b :: bs => (follow p b.toNat).1 ++ parts (follow p b.toNat).2 bs

/-- The text of `octets`, if they are one. -/
def decode? (octets : List UInt8) : Option String :=
  ((parts none octets).mapM id).map String.ofList

/-- The text of `octets`, with a replacement character for each malformed part. -/
def decodeLossy (octets : List UInt8) : String :=
  String.ofList ((parts none octets).map (·.getD '\ufffd'))

end RouterTrial.Text.Utf8
