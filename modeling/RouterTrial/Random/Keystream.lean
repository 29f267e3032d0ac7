import RouterTrial.Random.Words

/-!
# The keystream

The source of words of a trial: the ChaCha keystream with twelve rounds, a counter of 64 bits and
stream number zero. A block is a square of sixteen words; a round works on its four rows at once,
and two rounds, one on the columns and one on the diagonals, are a double round.

A number of 64 bits is made into a key by eight steps of a congruential generator with permuted
output.
-/

namespace RouterTrial

/-! ### Rows -/

/-- Four words side by side. -/
structure Row where
  a : UInt32
  b : UInt32
  c : UInt32
  d : UInt32
  deriving Repr, DecidableEq

namespace Row

/-- The sums of the words of the rows `x` and `y`. -/
def add (x y : Row) : Row := ⟨x.a + y.a, x.b + y.b, x.c + y.c, x.d + y.d⟩

/-- The word `w` with its bits moved up by `k`, those that leave at the top coming in below. -/
def rotateWord (w : UInt32) (k : UInt32) : UInt32 := w <<< k ||| w >>> (32 - k)

/-- The bits in which the rows `x` and `y` differ, each word moved up by `k`. -/
def mix (x y : Row) (k : UInt32) : Row :=
  ⟨rotateWord (x.a ^^^ y.a) k, rotateWord (x.b ^^^ y.b) k, rotateWord (x.c ^^^ y.c) k,
    rotateWord (x.d ^^^ y.d) k⟩

/-- The row `x` with its first word moved to the end. -/
def turn (x : Row) : Row := ⟨x.b, x.c, x.d, x.a⟩

/-- The words of the row `x`. -/
def words (x : Row) : List UInt32 := [x.a, x.b, x.c, x.d]

end Row

/-! ### Blocks -/

/-- Four rows, one below the other. -/
structure Block where
  first : Row
  second : Row
  third : Row
  fourth : Row
  deriving Repr, DecidableEq

namespace Block

/-- A round on the columns of `x`. -/
def columns (x : Block) : Block :=
  let a := x.first.add x.second
  let d := x.fourth.mix a 16
  let c := x.third.add d
  let b := x.second.mix c 12
  let a := a.add b
  let d := d.mix a 8
  let c := c.add d
  let b := b.mix c 7
  ⟨a, b, c, d⟩

/-- The diagonals of `x` made into columns. -/
def slant (x : Block) : Block :=
  ⟨x.first, x.second.turn, x.third.turn.turn, x.fourth.turn.turn.turn⟩

/-- The columns of `x` made into diagonals. -/
def unslant (x : Block) : Block :=
  ⟨x.first, x.second.turn.turn.turn, x.third.turn.turn, x.fourth.turn⟩

/-- A round on the columns of `x` and one on the diagonals. -/
def doubleRound (x : Block) : Block := x.columns.slant.columns.unslant

/-- So many times `doubleRound`. -/
def rounds : Nat → Block → Block
  | 0, x => x
  | n + 1, x => rounds n x.doubleRound

/-- The sums of the words of the blocks `x` and `y`. -/
def add (x y : Block) : Block :=
  ⟨x.first.add y.first, x.second.add y.second, x.third.add y.third, x.fourth.add y.fourth⟩

/-- The words of the block `x`, row by row. -/
def words (x : Block) : List UInt32 :=
  x.first.words ++ x.second.words ++ x.third.words ++ x.fourth.words

end Block

/-! ### Keys -/

/-- The eight words of a key. -/
structure Key where
  upper : Row
  lower : Row
  deriving Repr, DecidableEq

namespace Key

/-- The row that every block starts with. -/
def constants : Row := ⟨0x61707865, 0x3320646e, 0x79622d32, 0x6b206574⟩

/-- The block of the number `counter`, before its rounds. -/
def seedBlock (key : Key) (counter : UInt64) : Block :=
  ⟨constants, key.upper, key.lower, ⟨counter.toUInt32, (counter >>> 32).toUInt32, 0, 0⟩⟩

/-- The block of the keystream of `key` with the number `counter`. -/
def block (key : Key) (counter : UInt64) : Block :=
  (Block.rounds 6 (key.seedBlock counter)).add (key.seedBlock counter)

/-- The state of the generator of keys behind `state`. -/
def advance (state : UInt64) : UInt64 := state * 6364136223846793005 + 11634580027462260723

/-- The word that the generator of keys gives in `state`. -/
def permute (state : UInt64) : UInt32 :=
  let folded := (((state >>> 18) ^^^ state) >>> 27).toUInt32
  let turns := (state >>> 59).toUInt32
  folded >>> turns ||| folded <<< ((32 - turns) % 32)

/-- Four words of the generator of keys from `state` on, and the state behind them. -/
def expandRow (state : UInt64) : Row × UInt64 :=
  let s₁ := advance state
  let s₂ := advance s₁
  let s₃ := advance s₂
  let s₄ := advance s₃
  (⟨permute s₁, permute s₂, permute s₃, permute s₄⟩, s₄)

/-- The key of `seed`. -/
def ofSeed (seed : UInt64) : Key :=
  let upper := expandRow seed
  let lower := expandRow upper.2
  ⟨upper.1, lower.1⟩

end Key

/-! ### The source -/

/-- The keystream of a key from some place on. -/
structure Keystream where
  key : Key
  /-- The number of the next block. -/
  counter : UInt64
  /-- The words of the last block that have not been taken; the next block is the one of
  `counter`. -/
  pending : List UInt32
  deriving Repr, DecidableEq

namespace Keystream

/-- The whole keystream of `key`. -/
def ofKey (key : Key) : Keystream := ⟨key, 0, []⟩

/-- The keystream of `seed`. -/
def ofSeed (seed : Nat) : Keystream := ofKey (Key.ofSeed (UInt64.ofNat seed))

/-- The next word of `s` and the keystream behind it. -/
def next (s : Keystream) : UInt32 × Keystream :=
  match s.pending with
  | w :: ws => (w, { s with pending := ws })
  | [] =>
    let block := s.key.block s.counter
    (block.first.a, { s with counter := s.counter + 1, pending := block.words.tail })

/-- The number of words after which a keystream comes round, `2 ^ 64` blocks of sixteen. -/
def period : Nat := 295147905179352825856

instance : WordSource Keystream := ⟨next, fun _ => period⟩

end Keystream

end RouterTrial
