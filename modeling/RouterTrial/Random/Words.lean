/-!
# Sources of random words

A source gives words of 32 bits, one after the other; it is a value, and taking a word gives the
source behind it. `Script` is the source whose words are listed.
-/

namespace RouterTrial

/-- A source of words of 32 bits. -/
class WordSource (G : Type) where
  /-- The next word and the source behind it. -/
  next : G → UInt32 × G
  /-- So many words show all that the source will ever give: a word that has not come up among
  them never comes up. -/
  horizon : G → Nat

/-- A source of listed words, and zeros behind them. -/
structure Script where
  words : List UInt32
  /-- The number of words taken so far. -/
  taken : Nat
  deriving Repr, DecidableEq

namespace Script

/-- The source of the listed `words`. -/
def ofList (words : List UInt32) : Script := ⟨words, 0⟩

/-- The next word of `s` and the source behind it. -/
def next (s : Script) : UInt32 × Script :=
  match s.words with
  | [] => (0, ⟨[], s.taken + 1⟩)
  | w :: ws => (w, ⟨ws, s.taken + 1⟩)

instance : WordSource Script := ⟨next, fun s => s.words.length + 1⟩

end Script

end RouterTrial
