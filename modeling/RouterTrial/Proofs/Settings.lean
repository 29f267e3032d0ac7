import RouterTrial.Proofs.Deck
import RouterTrial.Proofs.Fallible
import RouterTrial.Proofs.Schedule
import RouterTrial.Session

/-!
# Settings that are accepted

The check of the settings looks at each of them by itself, and a trial is then set up from them with
a schedule and decks, each of which has conditions of its own. Of these conditions only one is not
among those of the check: the largest number of attempts. So there is a session for settings exactly
if the check accepts them and their number of attempts is not too large.
-/

namespace RouterTrial

namespace Settings

/-! ### The check -/

/-- What the check of the settings `s` asks for. -/
structure Accepted (s : Settings) : Prop where
  rejected : s.rejected = []
  total : 0 < s.total
  baseline : isPercent s.baseline = true
  deckSize : 1 ≤ s.deckSize ∧ s.deckSize ≤ maxDeckSize
  rates : ∀ rate ∈ s.rates, isPercent rate.2 = true
  timeout : s.timeout ≠ 0

theorem isPercent_iff {n : Int} : isPercent n = true ↔ 0 ≤ n ∧ n ≤ 100 := by
  rw [isPercent, Bool.and_eq_true, decide_eq_true_iff, decide_eq_true_iff]

/-- The check finds nothing wrong with the settings `s` before it looks at the rates. -/
structure SoundBeforeRates (s : Settings) : Prop where
  rejected : s.rejected = []
  total : 0 < s.total
  baseline : 0 ≤ s.baseline ∧ s.baseline ≤ 100
  deckSize : 1 ≤ s.deckSize ∧ s.deckSize ≤ maxDeckSize

section Fault

variable {s : Settings}

theorem SoundBeforeRates.fault?_eq (h : s.SoundBeforeRates) :
    s.fault? = (s.rates.find? fun rate => !isPercent rate.2).elim
      (if s.timeout = 0 then some .timeout else none)
      fun rate => some (.connectorRate rate.1 rate.2) := by
  have hsize : ¬(s.deckSize < 1 ∨ (maxDeckSize : Int) < s.deckSize) := by
    have := h.deckSize
    omega
  rw [fault?, h.rejected, if_neg (by decide), if_neg (Int.not_le.mpr h.total),
    isPercent_iff.mpr h.baseline, if_neg (by decide), if_neg hsize]
  cases s.rates.find? fun rate => !isPercent rate.2 <;> rfl

/-- The faults that are found in settings that are not `SoundBeforeRates`. -/
theorem fault?_of_not_soundBeforeRates (h : ¬s.SoundBeforeRates) :
    (s.rejected ≠ [] ∧ s.fault? = some (.unparsable s.rejected)) ∨
      s.rejected = [] ∧ (s.fault? = some (.totalPayments s.total) ∨
        s.fault? = some (.successPercent s.baseline) ∨ s.fault? = some (.poolSize s.deckSize)) := by
  rw [fault?]
  by_cases hrejected : s.rejected = []
  · refine .inr ⟨hrejected, ?_⟩
    rw [hrejected, if_neg (by decide)]
    by_cases htotal : s.total ≤ 0
    · exact .inl (if_pos htotal)
    rw [if_neg htotal]
    cases hbaseline : isPercent s.baseline with
    | false => exact .inr (.inl rfl)
    | true =>
      rw [if_neg (by decide)]
      -- nothing is left but the size of the decks
      by_cases hsize : s.deckSize < 1 ∨ (maxDeckSize : Int) < s.deckSize
      · exact .inr (.inr (if_pos hsize))
      · exact absurd ⟨hrejected, by omega, isPercent_iff.mp hbaseline, by omega⟩ h
  · refine .inl ⟨hrejected, if_pos ?_⟩
    rw [Bool.not_eq_true', List.isEmpty_eq_false_iff]
    exact hrejected

theorem validate_eq_error_iff {fault : ConfigurationFault} :
    s.validate = .error fault ↔ s.fault? = some fault := by
  rw [validate]
  cases s.fault? with
  | none => exact iff_of_false nofun nofun
  | some fault' => exact ⟨fun h => congrArg some (Except.error.inj h),
      fun h => congrArg Except.error (Option.some.inj h)⟩

/-- The check accepts the settings `s` exactly if they have all that it asks for. -/
theorem validate_eq_ok_iff : s.validate = .ok () ↔ s.Accepted := by
  have hfault : s.validate = .ok () ↔ s.fault? = none := by
    rw [validate]
    cases s.fault? with
    | none => simp only
    | some fault => simp only [reduceCtorEq]
  rw [hfault]
  constructor
  · intro h
    by_cases hsound : s.SoundBeforeRates
    · rw [hsound.fault?_eq] at h
      cases hrates : s.rates.find? fun rate => !isPercent rate.2 with
      | some rate =>
        rw [hrates] at h
        cases h
      | none =>
        rw [hrates, Option.elim_none] at h
        refine ⟨hsound.rejected, hsound.total, isPercent_iff.mpr hsound.baseline, hsound.deckSize,
          fun rate hrate => ?_, fun htimeout => ?_⟩
        · simpa only [Bool.not_eq_true', Bool.not_eq_false] using
            List.find?_eq_none.mp hrates rate hrate
        · cases h.symm.trans (if_pos htimeout)
    · rcases fault?_of_not_soundBeforeRates hsound with ⟨-, h'⟩ | ⟨-, h' | h' | h'⟩ <;>
        cases h.symm.trans h'
  · intro h
    have hrates : (s.rates.find? fun rate => !isPercent rate.2) = none := by
      rw [List.find?_eq_none]
      intro rate hrate
      rw [h.rates rate hrate]
      decide
    have hsound : s.SoundBeforeRates :=
      ⟨h.rejected, h.total, isPercent_iff.mp h.baseline, h.deckSize⟩
    rw [hsound.fault?_eq, hrates, Option.elim_none]
    exact if_neg h.timeout

end Fault

end Settings

/-! ### Decks -/

namespace Trial

theorem exists_addDeck {size percent : Nat} (hpercent : percent ≤ 100)
    (hsize : 0 < size ∧ size ≤ maxDeckSize) (decks : Table Nat Deck) :
    ∃ decks', addDeck size decks percent = .ok decks' := by
  have hpercent' : 0 ≤ (percent : Int) ∧ (percent : Int) ≤ 100 := by omega
  obtain ⟨deck, hdeck⟩ := Deck.exists_ofPercent?_iff.mpr ⟨hpercent', hsize⟩
  rw [addDeck]
  split
  · exact ⟨_, rfl⟩
  · rw [hdeck]
    exact ⟨_, rfl⟩

theorem exists_addRateDeck {size : Nat} {rate : String × Int} (hrate : 0 ≤ rate.2 ∧ rate.2 ≤ 100)
    (hsize : 0 < size ∧ size ≤ maxDeckSize) (decks : Table String Deck) :
    ∃ decks', addRateDeck size decks rate = .ok decks' := by
  obtain ⟨deck, hdeck⟩ := Deck.exists_ofPercent?_iff.mpr ⟨hrate, hsize⟩
  rw [addRateDeck, hdeck]
  exact ⟨_, rfl⟩

/-! ### Trials -/

/-- Settings that are `Accepted` and do not have too many attempts give a trial. -/
theorem exists_ofSettings? {s : Settings} (h : s.Accepted) (htotal : s.total ≤ maxAttempts) :
    ∃ t, ofSettings? s = .ok t := by
  have hbaseline := Settings.isPercent_iff.mp h.baseline
  have hsize : 0 < s.deckSize.toNat ∧ s.deckSize.toNat ≤ maxDeckSize := by
    have := h.deckSize
    omega
  have hpercents : ∀ percent ∈ (⟨s.total.toNat, s.baseline.toNat⟩ : Schedule).windows.map
      (·.percent), percent ≤ 100 := by
    intro percent hpercent
    simp only [Schedule.windows, List.map_cons, List.map_nil, List.mem_cons, List.not_mem_nil,
      or_false] at hpercent
    omega
  obtain ⟨decks, hdecks⟩ := exists_foldlM_eq_ok (f := addDeck s.deckSize.toNat)
    (fun percent hpercent => exists_addDeck (hpercents percent hpercent) hsize) .empty
  obtain ⟨rateDecks, hrateDecks⟩ := exists_foldlM_eq_ok (f := addRateDeck s.deckSize.toNat)
    (fun rate hrate => exists_addRateDeck (Settings.isPercent_iff.mp (h.rates rate hrate)) hsize)
    .empty
  rw [ofSettings?, Settings.validate_eq_ok_iff.mpr h,
    Schedule.plan?_eq_ok_iff.mpr ⟨⟨h.total, htotal⟩, hbaseline, rfl⟩]
  simp only [ok_bind, hdecks, hrateDecks]
  exact ⟨_, rfl⟩

/-- The trial `t` has settings that are accepted, and not too many attempts. -/
theorem accepted_of_ofSettings? {s : Settings} {t : Trial} (h : ofSettings? s = .ok t) :
    s.validate = .ok () ∧ s.total ≤ maxAttempts := by
  rw [ofSettings?] at h
  cases hvalid : s.validate with
  | error fault =>
    rw [hvalid] at h
    cases h
  | ok _ =>
    by_cases htotal : s.total ≤ maxAttempts
    · exact ⟨rfl, htotal⟩
    · have hplan : Schedule.plan? s.total s.baseline = .error (.attempts s.total) := by
        rw [Schedule.plan?, if_neg fun hrange => htotal hrange.2]
      rw [hvalid, hplan] at h
      cases h

end Trial

/-- There is a session exactly for settings `s` that are accepted and do not have too many
attempts. -/
theorem Session.exists_ofSettings?_iff {s : Settings} :
    (∃ session, ofSettings? s = .ok session) ↔ s.validate = .ok () ∧ s.total ≤ maxAttempts := by
  constructor
  · rintro ⟨session, h⟩
    obtain ⟨t, htrial, -⟩ := map_eq_ok_iff.mp h
    exact Trial.accepted_of_ofSettings? htrial
  · rintro ⟨hvalid, htotal⟩
    obtain ⟨t, ht⟩ := Trial.exists_ofSettings? (Settings.validate_eq_ok_iff.mp hvalid) htotal
    refine ⟨⟨t, .idle⟩, ?_⟩
    rw [ofSettings?, ht]
    rfl

end RouterTrial
