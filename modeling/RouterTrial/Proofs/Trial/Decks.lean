import RouterTrial.Proofs.Deck
import RouterTrial.Proofs.Fallible
import RouterTrial.Proofs.Schedule
import RouterTrial.Proofs.Table.Groups
import RouterTrial.Trial

/-!
# The decks of a trial

What a trial takes from its settings. Each window has a deck of its percentage, and a connector has
a deck of its own exactly if a rate is listed for it; of several rates under one name the last one
counts. All decks have the size that the settings say.
-/

namespace RouterTrial

/-- The last rate that is listed for the `connector`. -/
def Settings.lastRate? (s : Settings) (connector : String) : Option Int :=
  ((s.rates.filter fun rate => rate.1 = connector).getLast?).map (·.2)

/-- The deck with a `percent` and the size that the settings say. -/
def Settings.deck? (s : Settings) (percent : Int) : Except ConfigurationFault Deck :=
  Deck.ofPercent? percent s.deckSize.toNat

namespace Trial

/-! ### Building decks -/

/-- Every deck of the table `decks` has the percentage that it stands under, and the `size`. -/
def DecksOf (size : Nat) (decks : Table Nat Deck) : Prop :=
  ∀ percent deck, decks.find? percent = some deck → Deck.ofPercent? percent size = .ok deck

private theorem decksOf_addDeck {size percent : Nat} {decks decks' : Table Nat Deck}
    (hdecks : DecksOf size decks) (h : addDeck size decks percent = .ok decks') :
    DecksOf size decks' ∧ (∃ deck, decks'.find? percent = some deck) ∧
      ∀ other deck, decks.find? other = some deck → decks'.find? other = some deck := by
  unfold addDeck at h
  split at h
  · rename_i hfound
    obtain rfl := Except.ok.inj h
    exact ⟨hdecks, Option.isSome_iff_exists.mp hfound, fun _ _ hd => hd⟩
  · rename_i hmissing
    obtain ⟨deck, hdeck, rfl⟩ := map_eq_ok_iff.mp h
    refine ⟨fun p d hd => ?_, ⟨deck, by rw [Table.find?_insert, if_pos rfl]⟩, fun p d hd => ?_⟩
    · rw [Table.find?_insert] at hd
      split at hd
      · rename_i hp
        rw [hp, ← Option.some.inj hd]
        exact hdeck
      · exact hdecks p d hd
    · rw [Table.find?_insert, if_neg]
      · exact hd
      · rintro rfl
        exact hmissing (by rw [hd]; rfl)

/-- After the decks for `percents` have been added, there is one for each of them. -/
private theorem decksOf_foldlM_addDeck {size : Nat} {percents : List Nat}
    {decks decks' : Table Nat Deck} (hdecks : DecksOf size decks)
    (h : percents.foldlM (addDeck size) decks = .ok decks') :
    DecksOf size decks' ∧ (∀ percent ∈ percents, ∃ deck, decks'.find? percent = some deck) ∧
      ∀ other deck, decks.find? other = some deck → decks'.find? other = some deck := by
  induction percents generalizing decks with
  | nil =>
    obtain rfl := Except.ok.inj h
    exact ⟨hdecks, fun _ hp => absurd hp List.not_mem_nil, fun _ _ hd => hd⟩
  | cons percent rest ih =>
    obtain ⟨middle, hmiddle, hrest⟩ := foldlM_cons_eq_ok_iff.mp h
    obtain ⟨hdecks', ⟨deck, hdeck⟩, hkeep⟩ := decksOf_addDeck hdecks hmiddle
    obtain ⟨hall, hfound, hkeep'⟩ := ih hdecks' hrest
    refine ⟨hall, fun p hp => ?_, fun p d hd => hkeep' p d (hkeep p d hd)⟩
    rcases List.mem_cons.mp hp with rfl | hp
    · exact ⟨deck, hkeep' p deck hdeck⟩
    · exact hfound p hp

/-- Decks are added for the `percents` that are asked for and for no others. -/
private theorem find?_foldlM_addDeck_of_notMem {size : Nat} {percents : List Nat}
    {decks decks' : Table Nat Deck} (h : percents.foldlM (addDeck size) decks = .ok decks')
    {other : Nat} (hother : other ∉ percents) : decks'.find? other = decks.find? other := by
  induction percents generalizing decks with
  | nil =>
    obtain rfl := Except.ok.inj h
    rfl
  | cons percent rest ih =>
    obtain ⟨middle, hmiddle, hrest⟩ := foldlM_cons_eq_ok_iff.mp h
    rw [List.mem_cons, not_or] at hother
    obtain ⟨hne, hother⟩ := hother
    rw [ih hrest hother]
    unfold addDeck at hmiddle
    split at hmiddle
    · obtain rfl := Except.ok.inj hmiddle
      rfl
    · obtain ⟨deck, -, rfl⟩ := map_eq_ok_iff.mp hmiddle
      rw [Table.find?_insert, if_neg hne]

/-- After the decks for `rates` have been added, a connector has the deck of its last rate. -/
private theorem find?_foldlM_addRateDeck {size : Nat} {rates : List (String × Int)}
    {decks decks' : Table String Deck} (h : rates.foldlM (addRateDeck size) decks = .ok decks')
    (connector : String) :
    match (rates.filter fun rate => rate.1 = connector).getLast? with
    | none => decks'.find? connector = decks.find? connector
    | some rate =>
      ∃ deck, Deck.ofPercent? rate.2 size = .ok deck ∧ decks'.find? connector = some deck := by
  induction rates generalizing decks with
  | nil =>
    obtain rfl := Except.ok.inj h
    rfl
  | cons rate rest ih =>
    obtain ⟨middle, hmiddle, hrest⟩ := foldlM_cons_eq_ok_iff.mp h
    obtain ⟨deck, hdeck, rfl⟩ := map_eq_ok_iff.mp hmiddle
    have hlast := ih hrest
    rw [Table.find?_insert] at hlast
    -- a rate under the name counts unless there is a later one
    by_cases hname : rate.1 = connector
    · rw [List.filter_cons_of_pos (by simpa using hname), List.getLast?_cons]
      cases hrates : (rest.filter fun rate => rate.1 = connector).getLast? with
      | none =>
        rw [hrates, if_pos hname.symm] at hlast
        exact ⟨deck, hdeck, hlast⟩
      | some later =>
        rw [hrates] at hlast
        exact hlast
    · rw [List.filter_cons_of_neg (by simpa using hname)]
      rw [if_neg (Ne.symm hname)] at hlast
      exact hlast

/-! ### Trials of settings -/

/-- What the trial `t` takes from its settings `s`. -/
structure Follows (s : Settings) (t : Trial) : Prop where
  total_pos : 0 < s.total
  schedule : t.schedule = ⟨s.total.toNat, s.baseline.toNat⟩
  baseline : 0 ≤ s.baseline
  ranking : t.ranking = s.ranking
  attributes : t.attributes = .standard
  seed : t.seed = s.seed
  deck : ∀ w ∈ t.schedule.windows, ∃ deck,
    t.decks.find? w.percent = some deck ∧ s.deck? w.percent = .ok deck
  rateDeck : ∀ connector,
    Option.Rel (fun rate deck => s.deck? rate = .ok deck) (s.lastRate? connector)
      (t.rateDecks.find? connector)

/-- The trial `t` has as many attempts as its settings `s` say. -/
theorem Follows.total_eq {s : Settings} {t : Trial} (h : Follows s t) :
    (t.schedule.total : Int) = s.total := by
  rw [h.schedule]
  exact Int.toNat_of_nonneg (Int.le_of_lt h.total_pos)

/-- With a `seed` the words of the trial `t` are those of the seed. -/
theorem Follows.source_eq {s : Settings} {t : Trial} {seed : Nat} (h : Follows s t)
    (hseed : s.seed = some seed) (entropy : Keystream) : t.source entropy = .ofSeed seed := by
  rw [source, h.seed, hseed, Option.map_some, Option.getD_some]

/-- The decks of the trial `t` are those of the percentages of its windows, and have the size that
the settings say. -/
theorem decks_of_ofSettings? {s : Settings} {t : Trial} (h : ofSettings? s = .ok t) :
    DecksOf s.deckSize.toNat t.decks ∧
      ∀ percent ∉ t.schedule.windows.map (·.percent), t.decks.find? percent = none := by
  simp only [ofSettings?, bind_eq_ok_iff, pure, Except.pure] at h
  obtain ⟨-, -, schedule, -, decks, hdecks, rateDecks, -, ht⟩ := h
  obtain rfl := Except.ok.inj ht
  have hempty : DecksOf s.deckSize.toNat .empty := fun p d hd => by
    rw [Table.find?_empty] at hd
    cases hd
  exact ⟨(decksOf_foldlM_addDeck hempty hdecks).1, fun percent hpercent =>
    find?_foldlM_addDeck_of_notMem hdecks hpercent⟩

/-- The decks of the trial `t` are in order, one for each percentage and for each connector. -/
theorem sorted_of_ofSettings? {s : Settings} {t : Trial} (h : ofSettings? s = .ok t) :
    t.decks.Sorted ∧ t.rateDecks.Sorted := by
  simp only [ofSettings?, bind_eq_ok_iff, pure, Except.pure] at h
  obtain ⟨-, -, schedule, -, decks, hdecks, rateDecks, hrates, ht⟩ := h
  obtain rfl := Except.ok.inj ht
  refine ⟨foldlM_preserves (fun sorted hadd => ?_) Table.sorted_empty hdecks,
    foldlM_preserves (fun sorted hadd => ?_) Table.sorted_empty hrates⟩
  · unfold addDeck at hadd
    split at hadd
    · obtain rfl := Except.ok.inj hadd
      exact sorted
    · obtain ⟨deck, -, rfl⟩ := map_eq_ok_iff.mp hadd
      exact sorted.alter _ _
  · obtain ⟨deck, -, rfl⟩ := map_eq_ok_iff.mp hadd
    exact sorted.alter _ _

/-- The trial `t` with the settings `s` follows them. -/
theorem follows_of_ofSettings? {s : Settings} {t : Trial} (h : ofSettings? s = .ok t) :
    Follows s t := by
  simp only [ofSettings?, bind_eq_ok_iff, pure, Except.pure] at h
  obtain ⟨-, -, schedule, hplan, decks, hdecks, rateDecks, hrates, ht⟩ := h
  obtain rfl := Except.ok.inj ht
  obtain ⟨⟨hpos, -⟩, ⟨hbaseline, -⟩, hschedule⟩ := Schedule.plan?_eq_ok_iff.mp hplan
  refine ⟨hpos, hschedule, hbaseline, rfl, rfl, rfl, fun w hw => ?_, fun connector => ?_⟩
  · obtain ⟨hall, hfound, -⟩ :=
      decksOf_foldlM_addDeck (fun p d hd => by rw [Table.find?_empty] at hd; cases hd) hdecks
    obtain ⟨deck, hdeck⟩ := hfound w.percent (List.mem_map_of_mem hw)
    exact ⟨deck, hdeck, hall _ _ hdeck⟩
  · have hlast := find?_foldlM_addRateDeck hrates connector
    rw [Settings.lastRate?]
    cases hrate : (s.rates.filter fun rate => rate.1 = connector).getLast? with
    | none =>
      rw [hrate, Table.find?_empty] at hlast
      simp only [Option.map_none, hlast]
      exact .none
    | some rate =>
      rw [hrate] at hlast
      obtain ⟨deck, hdeck, hfound⟩ := hlast
      simp only [Option.map_some, hfound]
      exact .some hdeck

end Trial

end RouterTrial
