import RouterTrial.Card
import RouterTrial.Random.Words
import RouterTrial.Schedule

/-!
# Decks of cards

A deck has so many cards, of which a percentage, rounded down, succeed. A draw takes words from a
source until one is accepted: a word chooses the card at its proportional place in the deck, and is
accepted if that gives every place the same number of words.
-/

namespace RouterTrial

/-- A deck of `size` cards of which `percent` out of a hundred succeed. -/
structure Deck where
  percent : Nat
  size : Nat
  percent_le : percent ≤ 100
  size_pos : 0 < size
  size_le : size ≤ maxDeckSize
  deriving DecidableEq

namespace Deck

/-- The size of a deck where the settings give none. -/
def standardSize : Nat := 100

/-- The largest product that is formed, `2 ^ 64 - 1`. -/
def maxProduct : Nat := 18446744073709551615

/-- The deck of `size` cards of which `percent` out of a hundred succeed, if both numbers are in
range and their product is at most `maxProduct`. -/
def ofPercent? (percent : Int) (size : Nat) : Except ConfigurationFault Deck :=
  if hp : 0 ≤ percent ∧ percent ≤ 100 then
    if hs : 0 < size ∧ size ≤ maxDeckSize then
      if size * percent.toNat ≤ maxProduct then
        .ok ⟨percent.toNat, size, by omega, hs.1, hs.2⟩
      else .error (.deckProduct size)
    else .error (.deckSize size)
  else .error (.percent percent)

/-! ### Cards -/

/-- The number of cards of the deck `d` that succeed, rounded down. -/
def successes (d : Deck) : Nat := d.size * d.percent / 100

/-- The card at a `place` of the deck `d`; those that succeed come first. -/
def card (d : Deck) (place : Nat) : Card := if place < d.successes then .success else .fail

/-- The cards of the deck `d` in order. -/
def cards (d : Deck) : List Card :=
  List.replicate d.successes .success ++ List.replicate (d.size - d.successes) .fail

theorem successes_le (d : Deck) : d.successes ≤ d.size := by
  unfold successes
  have h : d.size * d.percent ≤ d.size * 100 := Nat.mul_le_mul_left _ d.percent_le
  omega

theorem getElem?_cards (d : Deck) (place : Nat) :
    d.cards[place]? = if place < d.size then some (d.card place) else none := by
  have h := d.successes_le
  simp only [cards, card, List.getElem?_append, List.length_replicate, List.getElem?_replicate]
  by_cases hs : place < d.successes
  · simp [hs, show place < d.size by omega]
  · have hf : place - d.successes < d.size - d.successes ↔ place < d.size := by omega
    simp [hs, hf]

/-! ### Draws -/

/-- The number of bits by which the size of the deck `d` can be moved up within a word. -/
def headroom (d : Deck) : Nat := 31 - d.size.log2

/-- The largest remainder with which a word is accepted; see `accepts`. -/
def zone (d : Deck) : Nat := d.size <<< d.headroom - 1

/-- The number of different words, `2 ^ 32`. -/
def wordCount : Nat := 4294967296

/-- The card that `word` chooses, if it is accepted. -/
def choose? (d : Deck) (word : UInt32) : Option Card :=
  let product := word.toNat * d.size
  if product % wordCount ≤ d.zone then some (d.card (product / wordCount)) else none

section Draw

variable {G : Type} [WordSource G]

/-- The card that the first accepted word of `g` chooses, among so many words at most; the first
card of the deck if none of them is accepted. -/
def drawWithin (d : Deck) : Nat → G → Card × G
  | 0, g => (d.card 0, g)
  | tries + 1, g =>
    let taken := WordSource.next g
    match d.choose? taken.1 with
    | some card => (card, taken.2)
    | none => d.drawWithin tries taken.2

/-- A card drawn from the deck `d`, and the source behind the words of `g` that the draw took. -/
def draw (d : Deck) (g : G) : Card × G := d.drawWithin (WordSource.horizon g) g

end Draw

end Deck

end RouterTrial
