import Mathlib.Algebra.Order.Floor.Div
import Mathlib.Data.FinEnum
import Mathlib.Data.Rat.Cast.Order
import Mathlib.Data.Set.Card
import Mathlib.Order.Interval.Set.Nat
import RouterTrial.Proofs.Deck

/-!
# Draws are uniform

A word chooses the place of the deck that is proportional to it, and is accepted if a remainder is
not too large. The words that choose a place and are accepted stand side by side, and as many stand
at every place: `2 ^ d.headroom` of them (`Deck.ncard_words_at`). So among the words that are
accepted the cards that succeed have exactly their share of the deck, whatever its size
(`Deck.Fair`).

A draw gives what the first accepted word chooses (`Deck.drawWithin_of_first`), so it has no bias
either.
-/

namespace RouterTrial

namespace Deck

/-! ### Acceptance -/

/-- The place of the deck `d` that `word` chooses. -/
def place (d : Deck) (word : UInt32) : Nat := word.toNat * d.size / wordCount

/-- The deck `d` accepts `word`. -/
def Accepts (d : Deck) (word : UInt32) : Prop := word.toNat * d.size % wordCount ≤ d.zone

private theorem choose?_of_accepts {d : Deck} {word : UInt32} (h : d.Accepts word) :
    d.choose? word = some (d.card (d.place word)) := if_pos h

theorem choose?_eq_some_iff {d : Deck} {word : UInt32} {card : Card} :
    d.choose? word = some card ↔ d.Accepts word ∧ d.card (d.place word) = card := by
  by_cases h : d.Accepts word
  · rw [choose?_of_accepts h, Option.some.injEq, and_iff_right h]
  · have hnone : d.choose? word = none := if_neg h
    simp only [hnone, reduceCtorEq, h, false_and]

private theorem place_lt (d : Deck) (word : UInt32) : d.place word < d.size :=
  Nat.div_lt_of_lt_mul (Nat.mul_lt_mul_of_pos_right word.toNat_lt d.size_pos)

private theorem card_eq_success_iff {d : Deck} {i : Nat} :
    d.card i = .success ↔ i < d.successes := by
  rw [card, ite_eq_left_iff, imp_iff_not (by decide), not_not]

private theorem card_eq_fail_iff {d : Deck} {i : Nat} : d.card i = .fail ↔ d.successes ≤ i := by
  rw [card, ite_eq_right_iff, imp_iff_not (by decide), Nat.not_lt]

/-- The size of the deck `d`, moved up as far as it goes, has the first bit of a word. -/
private theorem size_mul_bounds (d : Deck) :
    2 ^ 31 ≤ d.size * 2 ^ d.headroom ∧ d.size * 2 ^ d.headroom < 2 ^ 32 := by
  have hsize : d.size ≠ 0 := d.size_pos.ne'
  have hlog : d.size.log2 ≤ 31 := by
    rw [← Nat.lt_succ_iff, Nat.log2_lt hsize]
    exact Nat.lt_of_le_of_lt d.size_le (by decide)
  have hlow : 2 ^ d.size.log2 ≤ d.size := Nat.log2_self_le hsize
  have hhigh : d.size < 2 ^ (d.size.log2 + 1) := Nat.lt_log2_self
  constructor
  · calc 2 ^ 31 = 2 ^ d.size.log2 * 2 ^ d.headroom := by
          rw [headroom, ← pow_add, Nat.add_sub_cancel' hlog]
      _ ≤ d.size * 2 ^ d.headroom := Nat.mul_le_mul_right _ hlow
  · calc d.size * 2 ^ d.headroom < 2 ^ (d.size.log2 + 1) * 2 ^ d.headroom :=
          Nat.mul_lt_mul_of_pos_right hhigh (Nat.two_pow_pos _)
      _ = 2 ^ 32 := by
          rw [headroom, ← pow_add]
          congr 1
          omega

private theorem zone_add_one (d : Deck) : d.zone + 1 = d.size * 2 ^ d.headroom := by
  have hpos : 0 < d.size * 2 ^ d.headroom := Nat.mul_pos d.size_pos (Nat.two_pow_pos _)
  rw [zone, Nat.shiftLeft_eq, Nat.sub_add_cancel hpos]

/-- The `headroom` of a deck is the number of leading zeros of its size in a word. -/
private theorem headroom_eq_clz (d : Deck) : d.headroom = (BitVec.ofNat 32 d.size).clz.toNat := by
  have hsize : d.size < 2 ^ 32 := Nat.lt_of_le_of_lt d.size_le (by decide)
  have htoNat : (BitVec.ofNat 32 d.size).toNat = d.size := by
    rw [BitVec.toNat_ofNat, Nat.mod_eq_of_lt hsize]
  have hne : BitVec.ofNat 32 d.size ≠ 0#32 := fun h => by
    rw [h, BitVec.toNat_ofNat, Nat.zero_mod] at htoNat
    exact d.size_pos.ne htoNat
  have hclz : (BitVec.ofNat 32 d.size).clz.toNat < 32 := BitVec.clz_lt_iff_ne_zero.mpr hne
  have hhigh := BitVec.toNat_lt_two_pow_sub_clz (x := BitVec.ofNat 32 d.size)
  have hlow := BitVec.two_pow_sub_clz_le_toNat_of_ne_zero (by decide) hne
  rw [htoNat] at hhigh hlow
  have hlog : d.size.log2 = 31 - (BitVec.ofNat 32 d.size).clz.toNat := by
    rw [Nat.log2_eq_iff d.size_pos.ne']
    refine ⟨hlow, ?_⟩
    rwa [← Nat.sub_add_comm (Nat.le_of_lt_succ hclz)]
  rw [headroom, hlog]
  omega

/-! ### Words at a place -/

/-- The first word that chooses the place `i`, or a later one. -/
def firstWord (d : Deck) (i : Nat) : Nat := i * wordCount ⌈/⌉ d.size

private theorem firstWord_add_le_iff {d : Deck} {i k v : Nat} :
    d.firstWord i + k ≤ v ↔ i * wordCount + d.size * k ≤ d.size * v := by
  rcases Nat.lt_or_ge v k with hlt | hle
  · have hmul : d.size * v < d.size * k := Nat.mul_lt_mul_of_pos_left hlt d.size_pos
    omega
  · obtain ⟨m, rfl⟩ := Nat.exists_eq_add_of_le hle
    rw [Nat.add_comm, Nat.add_le_add_iff_left, Nat.mul_add, Nat.add_comm (i * wordCount),
      Nat.add_le_add_iff_left]
    exact ceilDiv_le_iff_le_mul d.size_pos

/-- The words that are accepted at the place `i` are those from `firstWord` on, as far as the zone
goes. -/
private theorem accepts_and_place_eq_iff {d : Deck} {word : UInt32} {i : Nat} :
    d.Accepts word ∧ d.place word = i ↔
      d.firstWord i ≤ word.toNat ∧ word.toNat < d.firstWord i + 2 ^ d.headroom := by
  have hzone := d.zone_add_one
  have hlt := d.size_mul_bounds.2
  rw [← Nat.not_le, firstWord_add_le_iff, ← Nat.add_zero (d.firstWord i), firstWord_add_le_iff,
    ← hzone, Nat.mul_comm d.size word.toNat, Accepts, place]
  simp only [wordCount]
  omega

private theorem lt_of_mem_Ico_firstWord {d : Deck} {i v : Nat} (hi : i < d.size)
    (hv : v ∈ Set.Ico (d.firstWord i) (d.firstWord i + 2 ^ d.headroom)) : v < UInt32.size := by
  have hbelow := hv.2
  rw [← Nat.not_le, firstWord_add_le_iff, Nat.not_le] at hbelow
  -- the products of a place stay below the next one
  have hproduct : d.size * v < d.size * wordCount :=
    calc d.size * v
      _ < i * wordCount + d.size * 2 ^ d.headroom := hbelow
      _ ≤ i * wordCount + wordCount := Nat.add_le_add_left d.size_mul_bounds.2.le _
      _ = (i + 1) * wordCount := (Nat.succ_mul i wordCount).symm
      _ ≤ d.size * wordCount := Nat.mul_le_mul_right _ hi
  exact Nat.lt_of_mul_lt_mul_left hproduct

/-- The words that choose the place `i` and are accepted stand side by side. -/
private theorem words_at_eq {d : Deck} {i : Nat} (hi : i < d.size) :
    {word | d.Accepts word ∧ d.place word = i}
      = UInt32.ofNat '' Set.Ico (d.firstWord i) (d.firstWord i + 2 ^ d.headroom) := by
  ext word
  rw [Set.mem_ofPred_eq, accepts_and_place_eq_iff]
  constructor
  · intro hword
    exact ⟨word.toNat, hword, UInt32.ofNat_toNat⟩
  · rintro ⟨v, hv, rfl⟩
    rwa [UInt32.toNat_ofNat_of_lt' (lt_of_mem_Ico_firstWord hi hv)]

/-- Every place `i` has the same number of words. -/
theorem ncard_words_at {d : Deck} {i : Nat} (hi : i < d.size) :
    {word | d.Accepts word ∧ d.place word = i}.ncard = 2 ^ d.headroom := by
  have hinj : Set.InjOn UInt32.ofNat
      (Set.Ico (d.firstWord i) (d.firstWord i + 2 ^ d.headroom)) := by
    intro v hv v' hv' heq
    have htoNat := congrArg UInt32.toNat heq
    rwa [UInt32.toNat_ofNat_of_lt' (lt_of_mem_Ico_firstWord hi hv),
      UInt32.toNat_ofNat_of_lt' (lt_of_mem_Ico_firstWord hi hv')] at htoNat
  rw [words_at_eq hi, hinj.ncard_image, Set.ncard_Ico_nat, Nat.add_sub_cancel_left]

/-- The places from `i` to `j` have as many times as many words. -/
private theorem ncard_words_between {d : Deck} {i j : Nat} (hij : i ≤ j) (hj : j ≤ d.size) :
    {word | d.Accepts word ∧ i ≤ d.place word ∧ d.place word < j}.ncard
      = (j - i) * 2 ^ d.headroom := by
  induction j, hij using Nat.le_induction with
  | base =>
    have hempty : {word | d.Accepts word ∧ i ≤ d.place word ∧ d.place word < i} = ∅ := by
      ext word
      simp only [Set.mem_ofPred_eq, Set.mem_empty_iff_false, iff_false]
      omega
    rw [hempty, Set.ncard_empty, Nat.sub_self, Nat.zero_mul]
  | succ j hij ih =>
    have hsplit : {word | d.Accepts word ∧ i ≤ d.place word ∧ d.place word < j + 1}
        = {word | d.Accepts word ∧ i ≤ d.place word ∧ d.place word < j}
          ∪ {word | d.Accepts word ∧ d.place word = j} := by
      ext word
      simp only [Set.mem_ofPred_eq, Set.mem_union, ← and_or_left]
      refine and_congr_right fun _ => ?_
      omega
    have hdisjoint : Disjoint {word | d.Accepts word ∧ i ≤ d.place word ∧ d.place word < j}
        {word | d.Accepts word ∧ d.place word = j} :=
      Set.disjoint_left.mpr fun word hword hword' => hword.2.2.ne hword'.2
    rw [hsplit, Set.ncard_union_eq hdisjoint, ih (Nat.le_of_succ_le hj), ncard_words_at hj,
      Nat.sub_add_comm hij, Nat.succ_mul]

/-! ### Words by card -/

theorem ncard_success (d : Deck) :
    {word | d.choose? word = some .success}.ncard = d.successes * 2 ^ d.headroom := by
  have hset : {word | d.choose? word = some .success}
      = {word | d.Accepts word ∧ 0 ≤ d.place word ∧ d.place word < d.successes} := by
    ext word
    simp only [Set.mem_ofPred_eq, choose?_eq_some_iff, card_eq_success_iff, Nat.zero_le, true_and]
  rw [hset, ncard_words_between (Nat.zero_le _) d.successes_le, Nat.sub_zero]

theorem ncard_fail (d : Deck) :
    {word | d.choose? word = some .fail}.ncard = (d.size - d.successes) * 2 ^ d.headroom := by
  have hset : {word | d.choose? word = some .fail}
      = {word | d.Accepts word ∧ d.successes ≤ d.place word ∧ d.place word < d.size} := by
    ext word
    simp only [Set.mem_ofPred_eq, choose?_eq_some_iff, card_eq_fail_iff, d.place_lt word, and_true]
  rw [hset, ncard_words_between d.successes_le (Nat.le_refl _)]

theorem ncard_accepted (d : Deck) :
    {word | (d.choose? word).isSome}.ncard = d.size * 2 ^ d.headroom := by
  have hset : {word | (d.choose? word).isSome}
      = {word | d.Accepts word ∧ 0 ≤ d.place word ∧ d.place word < d.size} := by
    ext word
    simp only [Set.mem_ofPred_eq, Option.isSome_iff_exists, choose?_eq_some_iff, exists_and_left,
      exists_eq', and_true, Nat.zero_le, d.place_lt word]
  rw [hset, ncard_words_between (Nat.zero_le _) (Nat.le_refl _), Nat.sub_zero]

theorem ncard_rejected (d : Deck) :
    {word | d.choose? word = none}.ncard = 2 ^ 32 - d.size * 2 ^ d.headroom := by
  have hset : {word | d.choose? word = none} = {word | (d.choose? word).isSome}ᶜ := by
    ext word
    simp only [Set.mem_ofPred_eq, Set.mem_compl_iff, Option.not_isSome_iff_eq_none]
  have hcard : Nat.card UInt32 = 2 ^ 32 := by
    rw [Nat.card_eq_fintype_card, ← FinEnum.card_eq_fintypeCard, FinEnum.card_UInt32]
  rw [hset, Set.ncard_compl, hcard, ncard_accepted]

/-! ### Draws -/

section Draws

variable {G : Type} [WordSource G]

/-- The source behind so many words of `g`. -/
def sourceAfter : Nat → G → G
  | 0, g => g
  | k + 1, g => sourceAfter k (WordSource.next g).2

/-- The word of `g` that comes behind `k` others. -/
def wordAt (k : Nat) (g : G) : UInt32 := (WordSource.next (sourceAfter k g)).1

/-- A draw gives what the first accepted word chooses, the one behind `k` others, and takes no word
behind it. -/
private theorem drawWithin_of_first {d : Deck} {card : Card} {tries k : Nat} {g : G}
    (hk : k < tries) (hrejected : ∀ j < k, d.choose? (wordAt j g) = none)
    (hcard : d.choose? (wordAt k g) = some card) :
    d.drawWithin tries g = (card, sourceAfter (k + 1) g) := by
  induction k generalizing tries g with
  | zero =>
    obtain ⟨tries, rfl⟩ := Nat.exists_eq_succ_of_ne_zero (Nat.ne_zero_of_lt hk)
    have hfirst : d.choose? (WordSource.next g).1 = some card := hcard
    simp only [drawWithin, hfirst, sourceAfter]
  | succ k ih =>
    obtain ⟨tries, rfl⟩ := Nat.exists_eq_succ_of_ne_zero (Nat.ne_zero_of_lt hk)
    have hfirst : d.choose? (WordSource.next g).1 = none := hrejected 0 (Nat.succ_pos k)
    simp only [drawWithin, hfirst]
    exact ih (Nat.lt_of_succ_lt_succ hk) (fun j hj => hrejected (j + 1) (Nat.succ_lt_succ hj)) hcard

/-- A draw gives no card that the deck `d` does not have, whatever words there are. -/
private theorem drawWithin_of_certain (d : Deck) (tries : Nat) (g : G) :
    (d.successes = 0 → (d.drawWithin tries g).1 = .fail) ∧
      (d.successes = d.size → (d.drawWithin tries g).1 = .success) := by
  obtain ⟨i, hi, hcard⟩ := d.exists_place_of_drawWithin tries g
  rw [hcard, card_eq_fail_iff, card_eq_success_iff]
  omega

end Draws

/-! ### Fair decks -/

/-- All cards of the deck have the same chance. The words have 32 bits, so that there are
`2 ^ 32 = 4294967296` of them. -/
structure Fair (d : Deck) : Prop where
  headroom : d.headroom = (BitVec.ofNat 32 d.size).clz.toNat
  zone : d.zone = (d.size <<< d.headroom - 1) % 4294967296
  /-- An accepted word chooses the card at its `place`. -/
  choose : ∀ word, d.choose? word =
    if word.toNat * d.size % 4294967296 ≤ d.zone then d.cards[word.toNat * d.size / 4294967296]?
    else none
  place_lt : ∀ word, (d.choose? word).isSome → word.toNat * d.size / 4294967296 < d.size
  accepts_zero : (d.choose? 0).isSome
  success : {word | d.choose? word = some .success}.ncard = d.successes * 2 ^ d.headroom
  fail : {word | d.choose? word = some .fail}.ncard = (d.size - d.successes) * 2 ^ d.headroom
  rejected : {word | d.choose? word = none}.ncard = 2 ^ 32 - d.size * 2 ^ d.headroom
  /-- The share of the accepted words that give a card that succeeds. -/
  share : ({word | d.choose? word = some .success}.ncard : ℚ)
    / {word | (d.choose? word).isSome}.ncard = d.successes / d.size
  draw : ∀ {G : Type} [WordSource G] (g : G) {k : Nat} {card : Card}, k < WordSource.horizon g →
    (∀ j < k, d.choose? (wordAt j g) = none) → d.choose? (wordAt k g) = some card →
      d.draw g = (card, sourceAfter (k + 1) g)
  certain : ∀ {G : Type} [WordSource G] (g : G),
    (d.successes = 0 → (d.draw g).1 = .fail) ∧ (d.successes = d.size → (d.draw g).1 = .success)

private theorem zone_eq_mod (d : Deck) : d.zone = (d.size <<< d.headroom - 1) % 4294967296 := by
  have hlt : d.zone + 1 < 4294967296 := d.zone_add_one ▸ d.size_mul_bounds.2
  exact (Nat.mod_eq_of_lt (Nat.lt_of_succ_lt hlt)).symm

theorem choose?_eq_getElem? (d : Deck) (word : UInt32) :
    d.choose? word = if word.toNat * d.size % 4294967296 ≤ d.zone
      then d.cards[word.toNat * d.size / 4294967296]? else none := by
  have hcard : d.cards[d.place word]? = some (d.card (d.place word)) := by
    rw [getElem?_cards, if_pos (d.place_lt word)]
  rw [show d.cards[word.toNat * d.size / 4294967296]? = _ from hcard]
  rfl

theorem share_success (d : Deck) :
    ({word | d.choose? word = some .success}.ncard : ℚ) / {word | (d.choose? word).isSome}.ncard
      = d.successes / d.size := by
  have hpos : (2 ^ d.headroom : ℚ) ≠ 0 := pow_ne_zero _ two_ne_zero
  rw [ncard_success, ncard_accepted]
  push_cast
  exact mul_div_mul_right _ _ hpos

theorem fair (d : Deck) : d.Fair where
  headroom := d.headroom_eq_clz
  zone := d.zone_eq_mod
  choose := d.choose?_eq_getElem?
  place_lt word _ := d.place_lt word
  accepts_zero := by
    have hzero : d.Accepts 0 := by
      rw [Accepts, UInt32.toNat_zero, Nat.zero_mul, Nat.zero_mod]
      exact Nat.zero_le _
    rw [choose?_of_accepts hzero, Option.isSome_some]
  success := d.ncard_success
  fail := d.ncard_fail
  rejected := d.ncard_rejected
  share := d.share_success
  draw _ _ _ hk hrejected hcard := drawWithin_of_first hk hrejected hcard
  certain g := d.drawWithin_of_certain _ g

/-- **Decks.** There is a deck for every percentage and every size from one to a million. It has the
percentage of cards that succeed, rounded down, and then those that do not, and draws from it are
`Fair`. -/
theorem exists_ofPercent?_iff_and_fair (percent : Int) (size : Nat) :
    ((∃ d, ofPercent? percent size = .ok d) ↔
      (0 ≤ percent ∧ percent ≤ 100) ∧ 1 ≤ size ∧ size ≤ 1000000) ∧
    ∀ d, ofPercent? percent size = .ok d →
      d.size = size ∧ (d.successes : Int) = size * percent / 100 ∧
        d.cards = List.replicate d.successes .success
          ++ List.replicate (size - d.successes) .fail ∧ d.Fair := by
  refine ⟨exists_ofPercent?_iff, fun d hd => ?_⟩
  obtain ⟨rfl, rfl⟩ := ofPercent?_eq_ok_iff.mp hd
  exact ⟨rfl, rfl, rfl, d.fair⟩

end Deck

end RouterTrial
