import RouterTrial.Proofs.Trial.Accounts
import RouterTrial.Proofs.Trial.Draws

/-!
# The stream of cards

Without rates for single connectors every attempt draws exactly one card, from the deck of its
phase and before there is a decision, also if it is skipped. So the seed fixes the card of every
attempt (`Settings.cards`), and no answer of a service and no cancellation can move it: whatever
was decided before, a payment is made with the card that the stream has at its place.

A draw takes as many words as it needs. The runs are therefore not compared word by word; what is
the same in all of them is the source behind the same number of draws.
-/

namespace RouterTrial

/-- The cards of the first so many attempts, if each of them draws one card from the deck of its
phase, and the source behind these draws from `g` on. -/
def Settings.cards {G : Type} [WordSource G] (s : Settings) (g : G) :
    Nat → Except ConfigurationFault (List Card × G)
  | 0 => .ok ([], g)
  | count + 1 => do
    let (before, source) ← s.cards g count
    let drawn := (← s.deck? (s.percentAt (count + 1))).draw source
    return (before ++ [drawn.1], drawn.2)

/-- The `card` is that of the last one of `index` draws. -/
def Settings.CardAt {G : Type} [WordSource G] (s : Settings) (g : G) (index : Nat) (card : Card) :
    Prop :=
  ∃ before source, s.cards g index = .ok (before ++ [card], source)

/-- The stream has one card at the place `index`. -/
theorem Settings.CardAt.unique {G : Type} [WordSource G] {s : Settings} {g : G} {index : Nat}
    {card card' : Card} (h : s.CardAt g index card) (h' : s.CardAt g index card') :
    card = card' := by
  obtain ⟨before, source, hcards⟩ := h
  obtain ⟨before', source', hcards'⟩ := h'
  rw [hcards] at hcards'
  have hlists := (Prod.mk.inj (Except.ok.inj hcards')).1
  exact List.singleton_inj.mp (List.append_inj_right' hlists rfl)

namespace Trial

variable {G : Type} [WordSource G] {s : Settings} {index : Nat} {g g' : G} {entries : Transcript}
  {outcome : Outcome}

/-! ### One draw for each attempt -/

/-- The attempt number `index` draws one card, and makes its payment with it if there is one. -/
def DrawnOnce (s : Settings) (index : Nat) (g : G) (_ : Transcript) (outcome : Outcome) (g' : G) :
    Prop :=
  ∃ deck, s.deck? (s.percentAt index) = .ok deck ∧ g' = (deck.draw g).2 ∧
    ∀ record, outcome = .recorded record → record.card = (deck.draw g).1

/-- Without rates there is no second draw: what is `Drawn` is `DrawnOnce`. -/
private theorem Drawn.drawnOnce (hrates : s.rates = []) (h : Drawn s index g entries outcome g') :
    DrawnOnce s index g entries outcome g' := by
  cases h with
  | skipped hdeck => exact ⟨_, hdeck, rfl, nofun⟩
  | once hdeck _ _ hcard _ =>
    refine ⟨_, hdeck, rfl, fun record hrecord => ?_⟩
    rw [← Outcome.recorded.inj hrecord]
    exact hcard
  | twice _ _ _ hrate _ _ _ =>
    rw [Settings.lastRate?, hrates] at hrate
    cases hrate

/-- **Step.** An attempt behind `count` draws makes one more. -/
theorem DrawnOnce.cards_succ {g₀ : G} {count : Nat} {before : List Card}
    (hbefore : s.cards g₀ count = .ok (before, g))
    (h : DrawnOnce s (count + 1) g entries outcome g') :
    ∃ card, s.cards g₀ (count + 1) = .ok (before ++ [card], g') ∧
      ∀ record, outcome = .recorded record → record.card = card := by
  obtain ⟨deck, hdeck, rfl, hcard⟩ := h
  refine ⟨(deck.draw g).1, ?_, hcard⟩
  rw [Settings.cards, hbefore]
  change (s.deck? (s.percentAt (count + 1)) >>= _) = _
  rw [hdeck]
  rfl

/-- **Run.** The cards of a course are those of the stream at the numbers of its attempts, `CardAt`
each of them. -/
theorem Course.cardAt {g₀ : G} {count : Nat} {before : List Card} {steps : List Step}
    {transcript : Transcript} (hbefore : s.cards g₀ count = .ok (before, g))
    (h : Course (DrawnOnce s) (count + 1) g steps transcript g') :
    ∀ step ∈ steps, ∀ record, step.outcome = .recorded record →
      s.CardAt g₀ step.index record.card := by
  -- the source before each attempt is the one behind as many draws as there were attempts
  generalize hindex : count + 1 = index at h
  induction h generalizing count before with
  | done => exact fun step hstep => absurd hstep List.not_mem_nil
  | next hnumber hmade _ ih =>
    subst hindex
    obtain ⟨card, hcards, hcard⟩ := hmade.cards_succ hbefore
    intro step hstep record hrecord
    rcases List.mem_cons.mp hstep with rfl | hstep
    · rw [hnumber, hcard record hrecord]
      exact ⟨_, _, hcards⟩
    · exact ih hcards rfl step hstep record hrecord

/-! ### Runs -/

/-- The records of a `run` are made with the cards of the stream. -/
private theorem Course.cardAt_of_mem {t : Trial} (hfollows : Follows s t) (hrates : s.rates = [])
    {roster : Roster} {run : Run} {transcript : Transcript}
    (h : Course (t.Attempted roster) 1 g run.steps transcript g') {record : Record}
    (hrecord : record ∈ run.ledger.records) (hid : record.id = .ofIndex index) :
    s.CardAt g index record.card := by
  obtain ⟨step, hstep, houtcome⟩ := Run.mem_records_ledger.mp hrecord
  have hnumber : AttemptId.ofIndex step.index = .ofIndex index := by
    rw [← h.id_eq step hstep, houtcome, ← hid, Outcome.id]
  obtain rfl := AttemptId.ofIndex_injective hnumber
  have honce : Course (DrawnOnce s) (0 + 1) g run.steps transcript g' :=
    h.mono fun hmade => (hmade.drawn hfollows).drawnOnce hrates
  have hnone : s.cards g 0 = .ok ([], g) := rfl
  exact honce.cardAt hnone step hstep record houtcome

end Trial

/-! ### Runs of sessions -/

/-- The records of a `session` without rates have the cards of the stream of its seed. -/
private theorem Session.exists_cardAt {settings : Settings} {session : Session} {seed : Nat}
    (hsession : Session.ofSettings? settings = .ok session) (hseed : settings.seed = some seed)
    (hrates : settings.rates = []) {σ : Type} (services : Services (StateM σ))
    {directory : Directory (StateM σ)} (entropy : Keystream) {s : σ} {roster : Roster}
    (hresolve : (directory.resolve s).1.1 = .ok roster) :
    ∃ run : Trial.Run, (session.run services directory entropy s).1.result = .ok run ∧
      ∀ record ∈ run.ledger.records, ∀ index, record.id = .ofIndex index →
        settings.CardAt (Keystream.ofSeed seed) index record.card := by
  obtain ⟨htrial, hidle⟩ := Session.ofSettings?_eq_ok hsession
  have hfollows := Trial.follows_of_ofSettings? htrial
  obtain ⟨run, g, hresult, hcourse, -, -⟩ :=
    Session.course_of_watch services entropy hidle hresolve
  rw [hfollows.source_eq hseed] at hcourse
  rw [Session.watch_fst] at hresult
  exact ⟨run, hresult, fun record hrecord index hid =>
    hcourse.cardAt_of_mem hfollows hrates hrecord hid⟩

/-- **Stream.** In any two runs of a session with a seed and without rates, over any directories and
services and with any cancellations, an attempt that is recorded in both has the same card, and that
is the card that the stream of the seed has at its number (`Settings.CardAt`), with the decks of the
phases. -/
theorem Session.card_eq_of_no_rates {settings : Settings} {session : Session} {seed : Nat}
    (hsession : Session.ofSettings? settings = .ok session) (hseed : settings.seed = some seed)
    (hrates : settings.rates = []) {σ₁ σ₂ : Type} (services₁ : Services (StateM σ₁))
    (services₂ : Services (StateM σ₂)) {directory₁ : Directory (StateM σ₁)}
    {directory₂ : Directory (StateM σ₂)} (entropy₁ entropy₂ : Keystream) {s₁ : σ₁} {s₂ : σ₂}
    {roster₁ roster₂ : Roster} (hresolve₁ : (directory₁.resolve s₁).1.1 = .ok roster₁)
    (hresolve₂ : (directory₂.resolve s₂).1.1 = .ok roster₂) :
    (∀ index, 1 ≤ index → index ≤ session.trial.schedule.total →
      ∃ w, session.trial.schedule.window? index = some w ∧
        (w.percent : Int) = settings.percentAt index) ∧
    ∃ run₁ run₂ : Trial.Run,
      (session.run services₁ directory₁ entropy₁ s₁).1.result = .ok run₁ ∧
      (session.run services₂ directory₂ entropy₂ s₂).1.result = .ok run₂ ∧
      ∀ index, ∀ record₁ ∈ run₁.ledger.records, ∀ record₂ ∈ run₂.ledger.records,
        record₁.id = .ofIndex index → record₂.id = .ofIndex index →
          record₁.card = record₂.card ∧
            settings.CardAt (Keystream.ofSeed seed) index record₁.card := by
  have hfollows := Trial.follows_of_ofSettings? (Session.ofSettings?_eq_ok hsession).1
  obtain ⟨run₁, hrun₁, hcards₁⟩ :=
    Session.exists_cardAt hsession hseed hrates services₁ entropy₁ hresolve₁
  obtain ⟨run₂, hrun₂, hcards₂⟩ :=
    Session.exists_cardAt hsession hseed hrates services₂ entropy₂ hresolve₂
  refine ⟨fun index hpos hle => ?_, run₁, run₂, hrun₁, hrun₂,
    fun index record₁ hrecord₁ record₂ hrecord₂ hid₁ hid₂ => ?_⟩
  · obtain ⟨w, hwindow⟩ := Schedule.exists_window? hpos hle
    exact ⟨w, hwindow, hfollows.percent_eq hwindow⟩
  · have hcard₁ := hcards₁ record₁ hrecord₁ index hid₁
    have hcard₂ := hcards₂ record₂ hrecord₂ index hid₂
    exact ⟨hcard₁.unique hcard₂, hcard₁⟩

/-- Settings for four attempts without rates. -/
def Settings.plain : Settings := { Settings.four with rates := [] }

/-- Directory of one connector. -/
def Directory.one : Directory (StateM Nat) := .ofFixed [("c", "3")]

/-- The same cards in a run that goes on to its end and in one, over another directory, that is
cancelled behind its second attempt. -/
theorem Session.card_eq_of_cancelled :
    ∃ (session : Session) (run₁ run₂ : Trial.Run), Session.ofSettings? .plain = .ok session ∧
      (session.run (.charging 9 "a") .two (.ofSeed 0) 0).1.result = .ok run₁ ∧
      (session.run (.declining 2 "c") .one (.ofSeed 1) 0).1.result = .ok run₂ ∧
      ∃ record₁ ∈ run₁.ledger.records, ∃ record₂ ∈ run₂.ledger.records,
        record₁.id = .ofIndex 2 ∧ record₂.id = .ofIndex 2 ∧ record₁.card = record₂.card := by
  obtain ⟨session, hsession⟩ : ∃ session, Session.ofSettings? .plain = .ok session := ⟨_, rfl⟩
  have hids : (Session.ofSettings? .plain).toOption.map (fun session =>
      (((session.run (.charging 9 "a") .two (.ofSeed 0) 0).1.result.map
          fun run => run.ledger.records.map (·.id)).toOption,
        ((session.run (.declining 2 "c") .one (.ofSeed 1) 0).1.result.map
          fun run => run.ledger.records.map (·.id)).toOption))
      = some (some [.ofIndex 1, .ofIndex 2, .ofIndex 3, .ofIndex 4],
        some [.ofIndex 1, .ofIndex 2]) := by
    decide +kernel
  have hresolve₁ : (Directory.two.resolve 0).1.1 = .ok (.ofList [("a", "1"), ("b", "2")]) := rfl
  have hresolve₂ : (Directory.one.resolve 0).1.1 = .ok (.ofList [("c", "3")]) := rfl
  obtain ⟨-, run₁, run₂, hrun₁, hrun₂, hcards⟩ :=
    Session.card_eq_of_no_rates hsession rfl rfl (.charging 9 "a") (.declining 2 "c") (.ofSeed 0)
      (.ofSeed 1) hresolve₁ hresolve₂
  rw [hsession] at hids
  obtain ⟨hids₁, hids₂⟩ := Prod.mk.inj (Option.some.inj hids)
  rw [hrun₁] at hids₁
  rw [hrun₂] at hids₂
  replace hids₁ : run₁.ledger.records.map (·.id)
      = [.ofIndex 1, .ofIndex 2, .ofIndex 3, .ofIndex 4] := Option.some.inj hids₁
  replace hids₂ : run₂.ledger.records.map (·.id) = [.ofIndex 1, .ofIndex 2] :=
    Option.some.inj hids₂
  have hmem₁ : AttemptId.ofIndex 2 ∈ run₁.ledger.records.map (·.id) := by
    rw [hids₁]
    exact List.mem_cons_of_mem _ List.mem_cons_self
  have hmem₂ : AttemptId.ofIndex 2 ∈ run₂.ledger.records.map (·.id) := by
    rw [hids₂]
    exact List.mem_cons_of_mem _ List.mem_cons_self
  obtain ⟨record₁, hrecord₁, hid₁⟩ := List.mem_map.mp hmem₁
  obtain ⟨record₂, hrecord₂, hid₂⟩ := List.mem_map.mp hmem₂
  exact ⟨session, run₁, run₂, hsession, hrun₁, hrun₂, record₁, hrecord₁, record₂, hrecord₂, hid₁,
    hid₂, (hcards 2 record₁ hrecord₁ record₂ hrecord₂ hid₁ hid₂).1⟩

end RouterTrial
