import RouterTrial.Deck

/-!
# Draws from decks

Whatever words a source gives, a draw gives one of the cards of the deck (`draw_mem_cards`). So a
deck without a card that succeeds never gives one, and a deck of cards that succeed never gives
another.
-/

namespace RouterTrial

namespace Deck

/-- The product of a percentage and a size within bounds is never larger than `maxProduct`. -/
theorem mul_le_maxProduct {percent : Int} {size : Nat} (hpercent : percent ≤ 100)
    (hsize : size ≤ maxDeckSize) : size * percent.toNat ≤ maxProduct := by
  calc size * percent.toNat ≤ maxDeckSize * 100 := Nat.mul_le_mul hsize (Int.toNat_le.mpr hpercent)
    _ ≤ maxProduct := by decide

/-- No deck is refused for its product: `ofPercent?` never comes to the fault `deckProduct`. -/
theorem ofPercent?_ne_deckProduct (percent : Int) (size n : Nat) :
    ofPercent? percent size ≠ .error (.deckProduct n) := by
  unfold ofPercent?
  split
  · rename_i hpercent
    split
    · rename_i hsize
      rw [if_pos (mul_le_maxProduct hpercent.2 hsize.2)]
      nofun
    · nofun
  · nofun

/-- The deck `d` is accepted if it has the `percent` and the `size` that are asked for. -/
theorem ofPercent?_eq_ok_iff {percent : Int} {size : Nat} {d : Deck} :
    ofPercent? percent size = .ok d ↔ (d.percent : Int) = percent ∧ d.size = size := by
  unfold ofPercent?
  split
  · rename_i hpercent
    split
    · rename_i hsize
      rw [if_pos (mul_le_maxProduct hpercent.2 hsize.2)]
      constructor
      · intro h
        obtain rfl := Except.ok.inj h
        exact ⟨Int.toNat_of_nonneg hpercent.1, rfl⟩
      · rintro ⟨rfl, rfl⟩
        rfl
    · rename_i hsize
      refine ⟨nofun, ?_⟩
      rintro ⟨-, rfl⟩
      exact absurd ⟨d.size_pos, d.size_le⟩ hsize
  · rename_i hpercent
    refine ⟨nofun, ?_⟩
    rintro ⟨rfl, -⟩
    exact absurd ⟨Int.natCast_nonneg _, Int.ofNat_le.mpr d.percent_le⟩ hpercent

/-- There is a deck for every percentage and every `size` that is positive and at most
`maxDeckSize`. -/
theorem exists_ofPercent?_iff {percent : Int} {size : Nat} :
    (∃ d, ofPercent? percent size = .ok d) ↔
      (0 ≤ percent ∧ percent ≤ 100) ∧ 0 < size ∧ size ≤ maxDeckSize := by
  constructor
  · rintro ⟨d, hd⟩
    obtain ⟨rfl, rfl⟩ := ofPercent?_eq_ok_iff.mp hd
    exact ⟨⟨Int.natCast_nonneg _, Int.ofNat_le.mpr d.percent_le⟩, d.size_pos, d.size_le⟩
  · rintro ⟨hpercent, hsize⟩
    rw [ofPercent?, dif_pos hpercent, dif_pos hsize,
      if_pos (mul_le_maxProduct hpercent.2 hsize.2)]
    exact ⟨_, rfl⟩

/-- The deck `d` has as many `cards` as its size says. -/
theorem length_cards (d : Deck) : d.cards.length = d.size := by
  rw [cards, List.length_append, List.length_replicate, List.length_replicate,
    Nat.add_sub_cancel' d.successes_le]

theorem count_success_cards (d : Deck) : d.cards.count .success = d.successes := by
  rw [cards, List.count_append, List.count_replicate_self, List.count_replicate]
  simp only [beq_iff_eq, reduceCtorEq, if_false, Nat.add_zero]

/-- A deck of no percent has no card that is a `success`. -/
theorem success_notMem_cards {d : Deck} (h : d.percent = 0) : Card.success ∉ d.cards := by
  have hnone : d.successes = 0 := by rw [successes, h, Nat.mul_zero, Nat.zero_div]
  rw [cards, hnone]
  intro hmem
  rcases List.mem_append.mp hmem with hmem | hmem
  · cases hmem
  · cases (List.mem_replicate.mp hmem).2

/-! ### Places -/

/-- A `word` that is accepted chooses a place of the deck `d`. -/
private theorem exists_place_of_choose? {d : Deck} {word : UInt32} {card : Card}
    (h : d.choose? word = some card) : ∃ place < d.size, card = d.card place := by
  simp only [choose?] at h
  split at h
  · refine ⟨word.toNat * d.size / wordCount, ?_, (Option.some.inj h).symm⟩
    refine Nat.div_lt_of_lt_mul ?_
    exact Nat.mul_lt_mul_of_pos_right word.toNat_lt d.size_pos
  · cases h

variable {G : Type} [WordSource G]

/-- A draw gives the card of some place, also when its words run out after so many `tries`. -/
theorem exists_place_of_drawWithin (d : Deck) (tries : Nat) (g : G) :
    ∃ place < d.size, (d.drawWithin tries g).1 = d.card place := by
  induction tries generalizing g with
  | zero => exact ⟨0, d.size_pos, rfl⟩
  | succ tries ih =>
    rw [drawWithin]
    cases hchosen : d.choose? (WordSource.next g).1 with
    | some card => exact exists_place_of_choose? hchosen
    | none => exact ih (WordSource.next g).2

/-- **Draws.** A draw gives one of the `cards` of the deck. -/
theorem draw_mem_cards (d : Deck) (g : G) : (d.draw g).1 ∈ d.cards := by
  obtain ⟨place, hlt, hplace⟩ := d.exists_place_of_drawWithin (WordSource.horizon g) g
  have hcard : d.cards[place]? = some (d.card place) := by rw [getElem?_cards, if_pos hlt]
  rw [draw, hplace]
  exact List.mem_of_getElem? hcard

end Deck

end RouterTrial
