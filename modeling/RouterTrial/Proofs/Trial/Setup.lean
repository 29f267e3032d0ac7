import RouterTrial.CommandLine
import RouterTrial.Proofs.Settings
import RouterTrial.Proofs.Trial.Draws

/-!
# Setting up a trial

What holds of a session before its first run. Settings are looked at four times on the way to it: by
their check, by the schedule, and for each deck by its percentage and by its size. The later looks
find nothing that the check has let pass, apart from too many attempts, so there are just two kinds
of failure (`Session.ofSettings?_eq_error_iff`), and neither of them asks anything of the
surroundings.

`Trial.SetUp` says what the attempts may rely on: each of them has a window, and each window a deck,
so no card is ever taken for want of a deck; the decks have the cards that the settings ask for, and
the table of the connectors with rates of their own has exactly the connectors that are listed.
-/

namespace RouterTrial

/-! ### Decks of settings -/

/-- The deck `d` has `size` cards, and of these `percent` out of a hundred succeed, rounded down.
The product that is divided fits into a word. -/
structure Deck.Composed (size percent : Int) (d : Deck) : Prop where
  percent_eq : (d.percent : Int) = percent
  length_cards : (d.cards.length : Int) = size
  count_success : (d.cards.count .success : Int) = size * percent / 100
  product_lt : d.size * d.percent < wordCount

/-- A deck of the settings `s` has the cards that they ask for. -/
private theorem Settings.composed_of_deck? {s : Settings} (hsize : 0 ≤ s.deckSize) {percent : Int}
    {d : Deck} (h : s.deck? percent = .ok d) : d.Composed s.deckSize percent := by
  obtain ⟨hpercent, hd⟩ := Deck.ofPercent?_eq_ok_iff.mp h
  have hlength : (d.size : Int) = s.deckSize := by
    rw [hd]
    exact Int.toNat_of_nonneg hsize
  refine ⟨hpercent, ?_, ?_, ?_⟩
  · rw [d.length_cards, hlength]
  · rw [d.count_success_cards, Deck.successes, Int.natCast_ediv, Int.natCast_mul, hlength, hpercent]
    rfl
  · calc d.size * d.percent
      _ ≤ maxDeckSize * 100 := Nat.mul_le_mul d.size_le d.percent_le
      _ < Deck.wordCount := by decide

/-- Settings that are `Accepted` have a deck for every percentage. -/
theorem Settings.Accepted.exists_deck? {s : Settings} (h : s.Accepted) {percent : Int}
    (hpercent : isPercent percent = true) : ∃ d, s.deck? percent = .ok d := by
  have hsize : 0 < s.deckSize.toNat ∧ s.deckSize.toNat ≤ maxDeckSize := by
    have := h.deckSize
    omega
  exact Deck.exists_ofPercent?_iff.mpr ⟨isPercent_iff.mp hpercent, hsize⟩

/-- A `connector` has a last rate if it is listed. -/
theorem Settings.exists_lastRate?_iff {s : Settings} {connector : String} :
    (∃ rate, s.lastRate? connector = some rate) ↔ connector ∈ s.rates.map (·.1) := by
  rw [← Option.ne_none_iff_exists', ne_eq, lastRate?, Option.map_eq_none_iff,
    List.getLast?_eq_none_iff, List.filter_eq_nil_iff]
  simp only [decide_eq_true_eq, List.mem_map, not_forall, not_not, exists_prop]

/-! ### What a trial starts from -/

namespace Trial

/-- All that the attempts of the trial `t` with the settings `s` rely on. -/
structure SetUp (s : Settings) (t : Trial) : Prop where
  total : (t.schedule.total : Int) = s.total
  window : ∀ index, 1 ≤ index → index ≤ t.schedule.total →
    ∃ w ∈ t.schedule.windows, t.schedule.window? index = some w
  /-- The first card of an attempt is drawn from a deck, whatever the source of words
  (`firstCard`). -/
  deck : ∀ w ∈ t.schedule.windows, ∃ deck, t.decks.find? w.percent = some deck ∧
    ∀ {G : Type} [WordSource G] (g : G), t.firstCard w g = deck.draw g
  percents : ∀ percent, percent ∈ t.decks.keys ↔ percent = 0 ∨ (percent : Int) = s.baseline
  decks : ∀ percent deck, t.decks.find? percent = some deck → deck.Composed s.deckSize percent
  connectors : ∀ connector, connector ∈ t.rateDecks.keys ↔ connector ∈ s.rates.map (·.1)
  rateDecks : ∀ connector deck, t.rateDecks.find? connector = some deck →
    ∃ rate, s.lastRate? connector = some rate ∧ deck.Composed s.deckSize rate
  /-- Every one of the `rates` gives a deck, also one that a later rate takes the place of. -/
  rates : ∀ rate ∈ s.rates, ∃ deck,
    s.deck? rate.2 = .ok deck ∧ deck.Composed s.deckSize rate.2
  sorted : t.decks.Sorted ∧ t.rateDecks.Sorted

section Follows

variable {s : Settings} {t : Trial}

/-- The windows of a trial are at no percent or at that of the settings `s`. -/
private theorem Follows.mem_percents (h : Follows s t) {percent : Nat} :
    percent ∈ t.schedule.windows.map (·.percent) ↔
      percent = 0 ∨ (percent : Int) = s.baseline := by
  have hbaseline := h.baseline
  rw [h.schedule]
  simp only [Schedule.windows, List.map_cons, List.map_nil, List.mem_cons, List.not_mem_nil,
    or_false]
  omega

/-- There are decks for no percent and for that of the settings `s`. -/
theorem Follows.mem_keys_decks (h : Follows s t) (htrial : ofSettings? s = .ok t) {percent : Nat} :
    percent ∈ t.decks.keys ↔ percent = 0 ∨ (percent : Int) = s.baseline := by
  rw [← h.mem_percents, Table.mem_keys_iff]
  constructor
  · rintro ⟨deck, hdeck⟩
    by_contra hmissing
    rw [(decks_of_ofSettings? htrial).2 percent hmissing] at hdeck
    cases hdeck
  · intro hpercent
    obtain ⟨w, hw, rfl⟩ := List.mem_map.mp hpercent
    obtain ⟨deck, hdeck, -⟩ := h.deck w hw
    exact ⟨deck, hdeck⟩

/-- The connectors with `rateDecks` of their own are those with rates. -/
theorem Follows.mem_keys_rateDecks (h : Follows s t) {connector : String} :
    connector ∈ t.rateDecks.keys ↔ connector ∈ s.rates.map (·.1) := by
  have hrel := h.rateDeck connector
  rw [Table.mem_keys_iff, ← Settings.exists_lastRate?_iff]
  generalize s.lastRate? connector = rate? at hrel
  generalize t.rateDecks.find? connector = deck? at hrel
  cases hrel with
  | none => exact ⟨nofun, nofun⟩
  | some _ => exact ⟨fun _ => ⟨_, rfl⟩, fun _ => ⟨_, rfl⟩⟩

end Follows

/-- The trial `t` is set up as its settings `s` say. -/
theorem setUp_of_ofSettings? {s : Settings} {t : Trial} (h : ofSettings? s = .ok t) :
    t.SetUp s := by
  have hfollows := follows_of_ofSettings? h
  have haccepted := Settings.validate_eq_ok_iff.mp (accepted_of_ofSettings? h).1
  have hsize : 0 ≤ s.deckSize := by
    have := haccepted.deckSize
    omega
  refine ⟨hfollows.total_eq, fun index hpos hle => ?_, fun w hw => ?_,
    fun percent => hfollows.mem_keys_decks h, fun percent deck hdeck => ?_,
    fun connector => hfollows.mem_keys_rateDecks, fun connector deck hdeck => ?_,
    fun rate hrate => ?_, sorted_of_ofSettings? h⟩
  · obtain ⟨w, hw⟩ := Schedule.exists_window? hpos hle
    exact ⟨w, (Schedule.window?_eq_some_iff.mp hw).1, hw⟩
  · obtain ⟨deck, hfound, -⟩ := hfollows.deck w hw
    refine ⟨deck, hfound, fun g => ?_⟩
    rw [firstCard, hfound]
  · exact Settings.composed_of_deck? hsize ((decks_of_ofSettings? h).1 percent deck hdeck)
  · have hrel := hfollows.rateDeck connector
    rw [hdeck] at hrel
    generalize s.lastRate? connector = rate? at hrel
    cases hrel with
    | some hrate => exact ⟨_, rfl, Settings.composed_of_deck? hsize hrate⟩
  · obtain ⟨deck, hdeck⟩ := haccepted.exists_deck? (haccepted.rates rate hrate)
    exact ⟨deck, hdeck, Settings.composed_of_deck? hsize hdeck⟩

end Trial

/-! ### Failures -/

namespace Session

/-- There is no session for a `cause` that the check gives, or if it is only that there are too many
attempts. -/
theorem ofSettings?_eq_error_iff {s : Settings} {cause : ConfigurationFault} :
    ofSettings? s = .error cause ↔
      s.validate = .error cause ∨
        s.validate = .ok () ∧ maxAttempts < s.total ∧ cause = .attempts s.total := by
  cases hvalid : s.validate with
  | error fault =>
    have hfails : ofSettings? s = .error fault := by
      rw [ofSettings?, Trial.ofSettings?, hvalid]
      rfl
    rw [hfails]
    constructor
    · intro h
      exact .inl (congrArg _ (Except.error.inj h))
    · rintro (h | ⟨h, -, -⟩)
      · exact congrArg _ (Except.error.inj h)
      · cases h
  | ok _ =>
    by_cases htotal : s.total ≤ maxAttempts
    · obtain ⟨session, hsession⟩ := exists_ofSettings?_iff.mpr ⟨hvalid, htotal⟩
      rw [hsession]
      constructor
      · intro h
        cases h
      · rintro (h | ⟨-, hmany, -⟩)
        · cases h
        · exact absurd htotal (Int.not_le.mpr hmany)
    · have hfails : ofSettings? s = .error (.attempts s.total) := by
        rw [ofSettings?, Trial.ofSettings?, hvalid, Schedule.plan?,
          if_neg fun hrange => htotal hrange.2]
        rfl
      rw [hfails]
      constructor
      · intro h
        exact .inr ⟨rfl, Int.not_le.mp htotal, (Except.error.inj h).symm⟩
      · rintro (h | ⟨-, -, rfl⟩)
        · cases h
        · rfl

end Session

/-- Without a session the program fails at once, and does nothing with its surroundings, the
`host`. -/
theorem CommandLine.run_of_rejected {environment : Lookup} {cause : ConfigurationFault}
    (h : Session.ofSettings? (.ofLookup environment) = .error cause) {m : Type → Type} [Monad m]
    (host : Host m) : run host environment = pure (.failure cause.fault) := by
  unfold run perform
  simp only [h]

/-- **Setup.** There is a session exactly for settings that the check accepts and that have no more
attempts than a word can count. It is then idle, and its trial has all that its attempts rely on
(`Trial.SetUp`); otherwise the failure is one of the configuration, with the wording of the check or
of the number of attempts, and the program stops without a call. -/
theorem Session.setUp_or_failure (s : Settings) :
    ((∃ session, ofSettings? s = .ok session) ↔ s.validate = .ok () ∧ s.total ≤ 4294967295) ∧
    (∀ session, ofSettings? s = .ok session →
      session.state = .idle ∧ session.trial.SetUp s) ∧
    ∀ cause,
      (ofSettings? s = .error cause ↔
        s.validate = .error cause ∨
          s.validate = .ok () ∧ 4294967295 < s.total ∧ cause = .attempts s.total) ∧
      (ofSettings? s = .error cause →
        (∃ text, cause.fault = .invalidConfiguration text) ∧
        ∀ {m : Type → Type} [Monad m] (host : Host m) (environment : Lookup),
          Settings.ofLookup environment = s →
            CommandLine.run host environment = pure (.failure cause.fault)) := by
  refine ⟨exists_ofSettings?_iff, fun session hsession => ?_, fun cause =>
    ⟨ofSettings?_eq_error_iff, fun herror => ⟨⟨cause.text, rfl⟩, fun host environment hs => ?_⟩⟩⟩
  · obtain ⟨htrial, hidle⟩ := ofSettings?_eq_ok hsession
    exact ⟨hidle, Trial.setUp_of_ofSettings? htrial⟩
  · subst hs
    exact CommandLine.run_of_rejected herror host

end RouterTrial
