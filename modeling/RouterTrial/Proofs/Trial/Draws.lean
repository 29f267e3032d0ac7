import RouterTrial.Proofs.Trial.Course
import RouterTrial.Proofs.Trial.Decks

/-!
# The draws of a run

Which decks the cards of a run are drawn from. Every attempt draws a card from the deck of its
phase, also if it is skipped; it draws once more if there is a payment, no forced failure, and a
rate for the connector that was decided on. `Drawn` says so of one attempt in terms of the settings
only, with the source of words going through all draws and through nothing else.

So every payment has a card of the deck that governs it, and while payments are forced to fail that
is a deck of cards that fail, whatever the rates of the connectors.
-/

namespace RouterTrial

/-! ### What the settings say -/

namespace Settings

/-- Payments are forced to fail at the attempt number `index`: it lies in the quarter behind the
first half. -/
def IsForced (s : Settings) (index : Nat) : Prop :=
  s.total / 2 < index ∧ index ≤ s.total / 2 + s.total / 4

instance (s : Settings) (index : Nat) : Decidable (s.IsForced index) :=
  inferInstanceAs (Decidable (_ ∧ _))

/-- The percentage of the phase of the attempt number `index`. -/
def percentAt (s : Settings) (index : Nat) : Int := if s.IsForced index then 0 else s.baseline

/-- The percentage that governs the payment of the attempt number `index` with `connector`. -/
def governing (s : Settings) (index : Nat) (connector : String) : Int :=
  if s.IsForced index then 0 else (s.lastRate? connector).getD s.baseline

end Settings

namespace Trial

variable {G : Type} [WordSource G]

/-! ### One attempt -/

/-- The draws of the attempt number `index`: the source of words before and behind them, and the
card that they come to. -/
inductive Drawn (s : Settings) (index : Nat) (g : G) : Transcript → Outcome → G → Prop
  | skipped {deck : Deck} {query : DecisionQuery} {decision : Decision} {skip : Skip}
      (hdeck : s.deck? (s.percentAt index) = .ok deck) :
      Drawn s index g [.decided query decision] (.skipped skip) (deck.draw g).2
  | once {deck : Deck} {query : DecisionQuery} {decision : Decision} {order : PaymentOrder}
      {answer : PaymentAnswer} {feedback : Feedback}
      {acknowledged : Except Fault Acknowledgement} {record : Record}
      (hdeck : s.deck? (s.percentAt index) = .ok deck)
      (hconnector : decision.connector = some record.connector)
      (hrate : s.IsForced index ∨ s.lastRate? record.connector = none)
      (hcard : record.card = (deck.draw g).1) (horder : order.card = record.card) :
      Drawn s index g
        [.decided query decision, .executed order answer, .reported feedback acknowledged]
        (.recorded record) (deck.draw g).2
  | twice {deck own : Deck} {rate : Int} {query : DecisionQuery} {decision : Decision}
      {order : PaymentOrder} {answer : PaymentAnswer} {feedback : Feedback}
      {acknowledged : Except Fault Acknowledgement} {record : Record}
      (hdeck : s.deck? (s.percentAt index) = .ok deck)
      (hconnector : decision.connector = some record.connector)
      (hforced : ¬s.IsForced index) (hrate : s.lastRate? record.connector = some rate)
      (hown : s.deck? rate = .ok own)
      (hcard : record.card = (own.draw (deck.draw g).2).1) (horder : order.card = record.card) :
      Drawn s index g
        [.decided query decision, .executed order answer, .reported feedback acknowledged]
        (.recorded record) (own.draw (deck.draw g).2).2

/-- The card of a payment, the one of `record`, is one of the deck that governs it. -/
theorem Drawn.exists_deck {s : Settings} {index : Nat} {g g' : G} {entries : Transcript}
    {record : Record} (h : Drawn s index g entries (.recorded record) g') :
    ∃ deck, s.deck? (s.governing index record.connector) = .ok deck ∧
      record.card ∈ deck.cards := by
  cases h with
  | @once deck _ _ _ _ _ _ _ hdeck _ hrate hcard =>
    refine ⟨deck, ?_, ?_⟩
    · rw [← hdeck, Settings.governing, Settings.percentAt]
      rcases hrate with hforced | hnone
      · rw [if_pos hforced, if_pos hforced]
      · rw [hnone, Option.getD_none]
    · rw [hcard]
      exact deck.draw_mem_cards g
  | @twice deck own _ _ _ _ _ _ _ _ _ _ hforced hrate hown hcard =>
    refine ⟨own, ?_, ?_⟩
    · rw [← hown, Settings.governing, if_neg hforced, hrate, Option.getD_some]
    · rw [hcard]
      exact own.draw_mem_cards (deck.draw g).2

/-! ### What the settings say of windows -/

section Follows

variable {s : Settings} {t : Trial} {index : Nat} {w : Window}

private theorem Follows.isForced_iff (h : Follows s t) :
    s.IsForced index ↔ t.schedule.failureStart < index ∧ index ≤ t.schedule.failureEnd := by
  have hpos := h.total_pos
  rw [h.schedule, Settings.IsForced, Schedule.failureEnd, Schedule.failureStart]
  simp only
  omega

/-- The window `w` of an attempt is that of forced failure if the settings say so. -/
theorem Follows.phase_iff (h : Follows s t) (hwindow : t.schedule.window? index = some w) :
    w.phase = .forcedFailure ↔ s.IsForced index := by
  rw [h.isForced_iff]
  exact (Schedule.window?_phase_percent hwindow).1

/-- The window `w` of an attempt has the percentage that the settings say. -/
theorem Follows.percent_eq (h : Follows s t) (hwindow : t.schedule.window? index = some w) :
    (w.percent : Int) = s.percentAt index := by
  have hbaseline := Int.toNat_of_nonneg h.baseline
  rw [(Schedule.window?_phase_percent hwindow).2, Settings.percentAt]
  by_cases hforced : s.IsForced index
  · rw [if_pos hforced, if_pos (h.isForced_iff.mp hforced)]
    rfl
  · rw [if_neg hforced, if_neg fun hin => hforced (h.isForced_iff.mpr hin), h.schedule]
    exact hbaseline

/-- The first card of an attempt comes from the deck of its phase, as `Settings.percentAt` says. -/
theorem Follows.exists_firstCard_eq (h : Follows s t)
    (hwindow : t.schedule.window? index = some w) (g : G) :
    ∃ deck, s.deck? (s.percentAt index) = .ok deck ∧ t.firstCard w g = deck.draw g := by
  obtain ⟨deck, hfound, hdeck⟩ := h.deck w (Schedule.window?_eq_some_iff.mp hwindow).1
  refine ⟨deck, ?_, ?_⟩
  · rw [← h.percent_eq hwindow]
    exact hdeck
  · rw [firstCard, hfound]

/-- While payments are forced to fail, no `connector` has a deck of its own. -/
theorem Follows.rateDeck?_of_isForced (h : Follows s t)
    (hwindow : t.schedule.window? index = some w) (hforced : s.IsForced index)
    (connector : String) : t.rateDeck? w connector = none := by
  rw [rateDeck?, if_pos ((h.phase_iff hwindow).mpr hforced)]

/-- Otherwise a `connector` has the deck of the last rate that is listed for it. -/
theorem Follows.rateDeck?_of_not_isForced (h : Follows s t)
    (hwindow : t.schedule.window? index = some w) (hforced : ¬s.IsForced index)
    (connector : String) :
    Option.Rel (fun rate deck => s.deck? rate = .ok deck) (s.lastRate? connector)
      (t.rateDeck? w connector) := by
  rw [rateDeck?, if_neg fun hphase => hforced ((h.phase_iff hwindow).mp hphase)]
  exact h.rateDeck connector

end Follows

/-! ### The draws of a course -/

/-- **Step.** The draws of an attempt are those that the settings say (`Drawn`). -/
theorem Attempted.drawn {s : Settings} {t : Trial} (hfollows : Follows s t) {roster : Roster}
    {index : Nat} {g g' : G} {entries : Transcript} {outcome : Outcome}
    (h : Attempted t roster index g entries outcome g') :
    Drawn s index g entries outcome g' := by
  cases h with
  | skipped hwindow _ =>
    obtain ⟨deck, hdeck, hfirst⟩ := hfollows.exists_firstCard_eq hwindow g
    rw [hfirst]
    exact .skipped hdeck
  | @paid w decision connector account answer _ hwindow hplace =>
    obtain ⟨deck, hdeck, hfirst⟩ := hfollows.exists_firstCard_eq hwindow g
    have hconnector := (connector_of_place_eq_pay hplace).1
    rw [cardFor, finalCard, hfirst]
    -- the rate is looked at outside the forced failures only
    by_cases hforced : s.IsForced index
    · rw [hfollows.rateDeck?_of_isForced hwindow hforced connector]
      exact .once hdeck hconnector (.inl hforced) rfl rfl
    · have hrel := hfollows.rateDeck?_of_not_isForced hwindow hforced connector
      generalize t.rateDeck? w connector = own? at hrel
      generalize hrate : s.lastRate? connector = rate? at hrel
      cases hrel with
      | none => exact .once hdeck hconnector (.inr hrate) rfl rfl
      | some hown => exact .twice hdeck hconnector hforced hrate hown rfl rfl

/-- The draws of a run from the source `g` of words on are those that the settings say. -/
structure Draws (s : Settings) (g : G) (steps : List Step) (transcript : Transcript) (g' : G) :
    Prop where
  /-- The draws of the attempts come one after the other, and no other words are taken. -/
  course : Course (Drawn s) 1 g steps transcript g'
  /-- The card of a payment comes from the deck that governs it (`Settings.governing`). -/
  governed : ∀ step ∈ steps, ∀ record, step.outcome = .recorded record →
    ∃ deck, s.deck? (s.governing step.index record.connector) = .ok deck ∧
      record.card ∈ deck.cards ∧ (.success ∉ deck.cards → record.card = .fail) ∧
      (.fail ∉ deck.cards → record.card = .success)
  /-- While payments are forced to fail, so do the cards. -/
  forced : ∀ step ∈ steps, ∀ record, step.outcome = .recorded record →
    s.IsForced step.index → record.card = .fail

/-- A `card` that is not the one is the other. -/
private theorem eq_of_mem_cards {d : Deck} {card : Card} (h : card ∈ d.cards) :
    (.success ∉ d.cards → card = .fail) ∧ (.fail ∉ d.cards → card = .success) := by
  cases card with
  | success => exact ⟨fun hnot => absurd h hnot, fun _ => rfl⟩
  | fail => exact ⟨fun _ => rfl, fun hnot => absurd h hnot⟩

/-- **Run.** A `Course` has the draws that the settings say. -/
theorem Course.draws {s : Settings} {t : Trial} (hfollows : Follows s t) {roster : Roster}
    {g g' : G} {steps : List Step} {transcript : Transcript}
    (h : Course (t.Attempted roster) 1 g steps transcript g') :
    Draws s g steps transcript g' := by
  have hcourse : Course (Drawn s) 1 g steps transcript g' :=
    h.mono fun hmade => hmade.drawn hfollows
  have hgoverned : ∀ step ∈ steps, ∀ record, step.outcome = .recorded record →
      ∃ deck, s.deck? (s.governing step.index record.connector) = .ok deck ∧
        record.card ∈ deck.cards := by
    intro step hstep record hrecord
    obtain ⟨entries, g₁, g₂, hmade⟩ := hcourse.exists_made hstep
    rw [hrecord] at hmade
    exact hmade.exists_deck
  refine ⟨hcourse, fun step hstep record hrecord => ?_,
    fun step hstep record hrecord hforced => ?_⟩
  · obtain ⟨deck, hdeck, hmem⟩ := hgoverned step hstep record hrecord
    exact ⟨deck, hdeck, hmem, eq_of_mem_cards hmem⟩
  · obtain ⟨deck, hdeck, hmem⟩ := hgoverned step hstep record hrecord
    rw [Settings.governing, if_pos hforced] at hdeck
    have hpercent : deck.percent = 0 :=
      Int.natCast_eq_zero.mp (Deck.ofPercent?_eq_ok_iff.mp hdeck).1
    exact (eq_of_mem_cards hmem).1 (Deck.success_notMem_cards hpercent)

end Trial

/-! ### Runs of sessions -/

/-- **Draws.** The attempts of a session draw their cards as its settings say (`Trial.Draws`), for
all settings that are accepted, all sources of words, all services and every moment of a
cancellation; and so does its first run, with the source of the trial. -/
theorem Session.exists_draws {settings : Settings} {session : Session}
    (hsession : Session.ofSettings? settings = .ok session) {σ : Type}
    (services : Services (StateM σ)) :
    (∀ {G : Type} [WordSource G] (roster : Roster) (g : G) (s : σ),
      let made := (session.trial.attempts services.transcribed roster
        session.trial.schedule.total 1 g [] s).1
      Trial.Draws settings g made.1.steps made.2 made.1.source) ∧
    ∀ {directory : Directory (StateM σ)} (entropy : Keystream) {s : σ} {roster : Roster},
      (directory.resolve s).1.1 = .ok roster →
        ∃ (run : Trial.Run) (g : Keystream),
          (session.run services directory entropy s).1.result = .ok run ∧
          Trial.Draws settings (session.trial.source entropy) run.steps
            (session.watch services directory entropy s).2 g := by
  obtain ⟨htrial, hidle⟩ := Session.ofSettings?_eq_ok hsession
  have hfollows := Trial.follows_of_ofSettings? htrial
  refine ⟨?_, ?_⟩
  · intro G _ roster g s
    obtain ⟨entries, hentries, hcourse, -, -⟩ := Trial.course_of_attempts session.trial services
      roster session.trial.schedule.total 1 (Nat.le_refl 1) (Nat.add_comm 1 _) g [] s
    rw [List.nil_append] at hentries
    simp only [hentries]
    exact hcourse.draws hfollows
  · intro directory entropy s roster hresolve
    obtain ⟨run, g, hresult, hcourse, -, -⟩ :=
      Session.course_of_watch services entropy hidle hresolve
    refine ⟨run, g, ?_, hcourse.draws hfollows⟩
    rw [← Session.watch_fst]
    exact hresult

/-- Draws of a trial with two rates for the connector that is decided on. -/
theorem Session.exists_draws_of_two_rates :
    ∃ (session : Session) (run : Trial.Run) (g : Keystream),
      Session.ofSettings? .four = .ok session ∧
      Trial.Draws .four (session.trial.source (.ofSeed 0)) run.steps
        (session.watch (.declining 4 "a") .two (.ofSeed 0) 0).2 g := by
  obtain ⟨session, hsession⟩ : ∃ session, Session.ofSettings? .four = .ok session := ⟨_, rfl⟩
  have hresolve : (Directory.two.resolve 0).1.1 = .ok (.ofList [("a", "1"), ("b", "2")]) := rfl
  obtain ⟨run, g, -, hdraws⟩ :=
    (Session.exists_draws hsession (.declining 4 "a")).2 (.ofSeed 0) hresolve
  exact ⟨session, run, g, hsession, hdraws⟩

end RouterTrial
