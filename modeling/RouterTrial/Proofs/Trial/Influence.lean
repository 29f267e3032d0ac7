import RouterTrial.Proofs.Trial.Course
import RouterTrial.Proofs.Trial.Decks

/-!
# What the services can influence

Two runs of a trial with a seed, over any services and as long as they decide on the same
connectors, ask the same questions and make the same payments with the same cards. The scores and
the approach of a decision, the answer to a payment and the answer to a feedback make no difference
to what is asked, paid or skipped, nor to whom the feedback is on.

The two runs are followed side by side along their courses. They have the same source of words
before each attempt, since an attempt takes its words by its window and by the connector that was
decided on.
-/

namespace RouterTrial

/-- What the record `r` does not owe to the answers of the services, other than to the choice of the
connector. -/
def Record.drawn (r : Record) : AttemptId × Phase × Card × String :=
  (r.id, r.phase, r.card, r.connector)

/-- Whom the feedback `f` is on. -/
def Feedback.target (f : Feedback) : String × AttemptId := (f.connector, f.id)

namespace Trial

/-! ### Agreement -/

/-- Two runs agree on what was asked and paid, on the skips, and on the records and feedbacks up to
what the services answered. -/
structure Agree (transcript₁ transcript₂ : Transcript) (ledger₁ ledger₂ : Ledger) : Prop where
  requests : transcript₁.requests = transcript₂.requests
  skips : ledger₁.skips = ledger₂.skips
  records : ledger₁.records.map Record.drawn = ledger₂.records.map Record.drawn
  feedbacks : transcript₁.feedbacks.map Feedback.target = transcript₂.feedbacks.map Feedback.target

/-- The connector that was decided on at an attempt, as far as it can be told from its outcome. -/
def Outcome.choice : Outcome → Option String
  | recorded record => some record.connector
  | skipped ⟨_, _, .noDecision⟩ => none
  | skipped ⟨_, _, .unknownConnector connector⟩ => some connector

/-- The ledger of one attempt, whose outcome is `o`. -/
def Outcome.ledger (o : Outcome) : Ledger :=
  ⟨(Run.record? o).toList, (Run.skip? o).toList⟩

private theorem Run.ledger_cons (step : Step) (steps : List Step) (cancelled : Bool) :
    (⟨step :: steps, cancelled⟩ : Run).ledger
      = ⟨step.outcome.ledger.records ++ (⟨steps, cancelled⟩ : Run).ledger.records,
          step.outcome.ledger.skips ++ (⟨steps, cancelled⟩ : Run).ledger.skips⟩ := by
  cases houtcome : step.outcome <;>
    simp only [ledger, Outcome.ledger, List.filterMap_cons, houtcome, record?, skip?] <;> rfl

/-- Agreement goes from the parts of runs to the whole (`Agree`). -/
theorem Agree.append {transcript₁ transcript₂ transcript₁' transcript₂' : Transcript}
    {ledger₁ ledger₂ ledger₁' ledger₂' : Ledger}
    (h : Agree transcript₁ transcript₂ ledger₁ ledger₂)
    (h' : Agree transcript₁' transcript₂' ledger₁' ledger₂') :
    Agree (transcript₁ ++ transcript₁') (transcript₂ ++ transcript₂')
      ⟨ledger₁.records ++ ledger₁'.records, ledger₁.skips ++ ledger₁'.skips⟩
      ⟨ledger₂.records ++ ledger₂'.records, ledger₂.skips ++ ledger₂'.skips⟩ where
  requests := by
    rw [Transcript.requests_append, Transcript.requests_append, h.requests, h'.requests]
  skips := by rw [h.skips, h'.skips]
  records := by rw [List.map_append, List.map_append, h.records, h'.records]
  feedbacks := by
    rw [Transcript.feedbacks_append, Transcript.feedbacks_append, List.map_append,
      List.map_append, h.feedbacks, h'.feedbacks]

/-! ### Two courses side by side -/

section Course

variable {G : Type} [WordSource G] {t : Trial} {roster : Roster} {index : Nat} {g g₁ g₂ : G}
  {transcript₁ transcript₂ : Transcript}

/-- An attempt has one decision, the `choice` of its outcome. -/
theorem Attempted.choices {outcome : Outcome} {transcript : Transcript}
    (h : Attempted t roster index g transcript outcome g₁) :
    transcript.choices = [outcome.choice] := by
  cases h with
  | skipped _ hplace =>
    rcases reason_of_place_eq_skip hplace with ⟨hnone, rfl⟩ | ⟨_, hconnector, -, rfl⟩
    · exact congrArg (fun choice => [choice]) hnone
    · exact congrArg (fun choice => [choice]) hconnector
  | paid _ hplace =>
    have hconnector := (connector_of_place_eq_pay hplace).1
    exact congrArg (fun choice => [choice]) hconnector

/-- The decisions of a course are one for each of its `steps`. -/
theorem Course.choices_eq {steps : List Step} {transcript : Transcript}
    (h : Course (t.Attempted roster) index g steps transcript g₁) :
    transcript.choices = steps.map fun step => step.outcome.choice := by
  rw [← List.filterMap_eq_map]
  exact h.filterMap_eq Entry.choice? (fun outcome => some outcome.choice)
    fun hmade => hmade.choices

private theorem drawn_recordOf (id : AttemptId) (w : Window) (d : Decision) (connector : String)
    (card : Card) (answer : PaymentAnswer) :
    (recordOf id w d connector card answer).drawn = (id, w.phase, card, connector) := by
  rw [Record.drawn, recordOf]

private theorem place_congr (roster : Roster) {d₁ d₂ : Decision} (h : d₁.connector = d₂.connector) :
    place roster d₁ = place roster d₂ := by
  unfold place
  rw [h]

/-- **Step.** Two attempts with the same number and source of words `Agree` if the same connector is
decided on, and leave the same source. -/
theorem Attempted.agree {outcome₁ outcome₂ : Outcome}
    (h₁ : Attempted t roster index g transcript₁ outcome₁ g₁)
    (h₂ : Attempted t roster index g transcript₂ outcome₂ g₂)
    (hchoices : transcript₁.choices = transcript₂.choices) :
    Agree transcript₁ transcript₂ outcome₁.ledger outcome₂.ledger ∧ g₁ = g₂ := by
  cases h₁ with
  | skipped hwindow₁ hplace₁ =>
    cases h₂ with
    | skipped hwindow₂ hplace₂ =>
      obtain rfl := Option.some.inj (hwindow₁.symm.trans hwindow₂)
      have hplace := place_congr roster (List.cons.inj hchoices).1
      obtain rfl := Placement.skip.inj (hplace₁.symm.trans (hplace.trans hplace₂))
      exact ⟨⟨rfl, rfl, rfl, rfl⟩, rfl⟩
    | paid hwindow₂ hplace₂ =>
      have hplace := place_congr roster (List.cons.inj hchoices).1
      exact absurd (hplace₁.symm.trans (hplace.trans hplace₂)) nofun
  | paid hwindow₁ hplace₁ =>
    cases h₂ with
    | skipped hwindow₂ hplace₂ =>
      have hplace := place_congr roster (List.cons.inj hchoices).1
      exact absurd (hplace₁.symm.trans (hplace.trans hplace₂)) nofun
    | paid hwindow₂ hplace₂ =>
      obtain rfl := Option.some.inj (hwindow₁.symm.trans hwindow₂)
      have hplace := place_congr roster (List.cons.inj hchoices).1
      obtain ⟨rfl, rfl⟩ := Placement.pay.inj (hplace₁.symm.trans (hplace.trans hplace₂))
      refine ⟨⟨?_, rfl, ?_, ?_⟩, rfl⟩
      · simp only [Transcript.requests, List.filterMap_cons, List.filterMap_nil, Entry.request?]
      · simp only [Outcome.ledger, Run.record?, Option.toList_some, List.map_singleton,
          drawn_recordOf]
      · simp only [Transcript.feedbacks, List.filterMap_cons, List.filterMap_nil, Entry.feedback?,
          List.map_singleton, Feedback.target]

/-- **Run.** Two courses from the same number and source of words on `Agree` if the same connectors
are decided on. -/
theorem Course.agree {steps₁ steps₂ : List Step}
    (h₁ : Course (t.Attempted roster) index g steps₁ transcript₁ g₁)
    (h₂ : Course (t.Attempted roster) index g steps₂ transcript₂ g₂)
    (hchoices : transcript₁.choices = transcript₂.choices) (cancelled₁ cancelled₂ : Bool) :
    Agree transcript₁ transcript₂ (⟨steps₁, cancelled₁⟩ : Run).ledger
      (⟨steps₂, cancelled₂⟩ : Run).ledger := by
  -- the second course is taken apart in step with the first; a course that is longer than the other
  -- one has a decision more
  induction h₁ generalizing steps₂ transcript₂ g₂ with
  | done =>
    rw [h₂.choices_eq] at hchoices
    obtain rfl := List.map_eq_nil_iff.mp hchoices.symm
    cases h₂
    exact ⟨rfl, rfl, rfl, rfl⟩
  | next hindex₁ hmade₁ hrest₁ ih =>
    cases h₂ with
    | done =>
      rw [(Course.next hindex₁ hmade₁ hrest₁).choices_eq] at hchoices
      cases hchoices
    | next _ hmade₂ hrest₂ =>
      have hentries₁ := hmade₁.choices
      have hentries₂ := hmade₂.choices
      rw [Transcript.choices_append, Transcript.choices_append, hentries₁, hentries₂] at hchoices
      obtain ⟨hfirst, hothers⟩ := List.cons.inj hchoices
      obtain ⟨hagree, rfl⟩ := hmade₁.agree hmade₂ (by rw [hentries₁, hentries₂, hfirst])
      rw [Run.ledger_cons, Run.ledger_cons]
      exact hagree.append (ih hrest₂ hothers)

end Course

end Trial

/-! ### Runs of sessions -/

/-- A run of the `session` with a decision for every attempt has not been cancelled. -/
private theorem Session.exists_uncut {σ : Type} {session : Session} {services : Services (StateM σ)}
    {directory : Directory (StateM σ)} {entropy : Keystream} {s : σ} {roster : Roster}
    (hidle : session.state = .idle) (hresolve : (directory.resolve s).1.1 = .ok roster)
    (hall : (session.watch services directory entropy s).2.choices.length
      = session.trial.schedule.total) :
    ∃ run : Trial.Run, (session.run services directory entropy s).1.result = .ok run ∧
      run.cancelled = false := by
  obtain ⟨run, g, hresult, hcourse, -, hcut⟩ :=
    Session.course_of_watch services entropy hidle hresolve
  rw [Session.watch_fst] at hresult
  rw [hcourse.choices_eq, List.length_map] at hall
  refine ⟨run, hresult, Bool.eq_false_iff.mpr fun hcancelled => ?_⟩
  have hlt := hcut.mp hcancelled
  rw [Trial.Run.processed] at hlt
  omega

/-- **Influence.** Two runs of a session with a `seed` agree if neither is cancelled and the same
connectors are decided on, whatever else the services answer. -/
theorem Session.agree_of_choices {settings : Settings} {session : Session} {seed : Nat}
    (hsession : Session.ofSettings? settings = .ok session) (hseed : settings.seed = some seed)
    {σ₁ σ₂ : Type} {services₁ : Services (StateM σ₁)} {services₂ : Services (StateM σ₂)}
    {directory₁ : Directory (StateM σ₁)} {directory₂ : Directory (StateM σ₂)}
    {entropy₁ entropy₂ : Keystream} {s₁ : σ₁} {s₂ : σ₂} {roster : Roster}
    (hresolve₁ : (directory₁.resolve s₁).1.1 = .ok roster)
    (hresolve₂ : (directory₂.resolve s₂).1.1 = .ok roster) {run₁ run₂ : Trial.Run}
    (hrun₁ : (session.run services₁ directory₁ entropy₁ s₁).1.result = .ok run₁)
    (hrun₂ : (session.run services₂ directory₂ entropy₂ s₂).1.result = .ok run₂)
    (huncut₁ : run₁.cancelled = false) (huncut₂ : run₂.cancelled = false)
    (hchoices : ∀ (i : Nat) (choice₁ choice₂ : Option String),
      (session.watch services₁ directory₁ entropy₁ s₁).2.choices[i]? = some choice₁ →
      (session.watch services₂ directory₂ entropy₂ s₂).2.choices[i]? = some choice₂ →
        choice₁ = choice₂) :
    Trial.Agree (session.watch services₁ directory₁ entropy₁ s₁).2
      (session.watch services₂ directory₂ entropy₂ s₂).2 run₁.ledger run₂.ledger := by
  obtain ⟨htrial, hidle⟩ := Session.ofSettings?_eq_ok hsession
  have hfollows := Trial.follows_of_ofSettings? htrial
  have hsource : session.trial.source entropy₁ = session.trial.source entropy₂ := by
    rw [Trial.source, Trial.source, hfollows.seed, hseed]
    rfl
  obtain ⟨run₁', g₁, hresult₁, hcourse₁, hlength₁, hcut₁⟩ :=
    Session.course_of_watch services₁ entropy₁ hidle hresolve₁
  obtain ⟨run₂', g₂, hresult₂, hcourse₂, hlength₂, hcut₂⟩ :=
    Session.course_of_watch services₂ entropy₂ hidle hresolve₂
  rw [Session.watch_fst] at hresult₁ hresult₂
  obtain rfl := Except.ok.inj (hrun₁.symm.trans hresult₁)
  obtain rfl := Except.ok.inj (hrun₂.symm.trans hresult₂)
  rw [hsource] at hcourse₁
  -- neither run is cut short, so there is a decision at every number in both of them
  have htotal₁ : session.trial.schedule.total ≤ run₁.processed :=
    Nat.le_of_not_lt fun hlt => Bool.false_ne_true (huncut₁.symm.trans (hcut₁.mpr hlt))
  have htotal₂ : session.trial.schedule.total ≤ run₂.processed :=
    Nat.le_of_not_lt fun hlt => Bool.false_ne_true (huncut₂.symm.trans (hcut₂.mpr hlt))
  refine hcourse₁.agree hcourse₂ (List.ext_getElem ?_ fun i hi₁ hi₂ => ?_) run₁.cancelled
    run₂.cancelled
  · rw [hcourse₁.choices_eq, hcourse₂.choices_eq, List.length_map, List.length_map]
    exact Nat.le_antisymm (Nat.le_trans hlength₁ htotal₂) (Nat.le_trans hlength₂ htotal₁)
  · exact hchoices i _ _ (List.getElem?_eq_getElem hi₁) (List.getElem?_eq_getElem hi₂)

/-- Agreement of a run whose payments are declined with one whose payments are charged. -/
theorem Session.agree_of_choices_charging :
    ∃ (session : Session) (run₁ run₂ : Trial.Run), Session.ofSettings? .four = .ok session ∧
      Trial.Agree (session.watch (.declining 4 "a") .two (.ofSeed 0) 0).2
        (session.watch (.charging 9 "a") .two (.ofSeed 1) 0).2 run₁.ledger run₂.ledger := by
  obtain ⟨session, hsession⟩ : ∃ session, Session.ofSettings? .four = .ok session := ⟨_, rfl⟩
  have hdecided : (Session.ofSettings? .four).toOption.map (fun session =>
      (session.trial.schedule.total,
        (session.watch (.declining 4 "a") .two (.ofSeed 0) 0).2.choices,
        (session.watch (.charging 9 "a") .two (.ofSeed 1) 0).2.choices))
      = some (4, .replicate 4 (some "a"), .replicate 4 (some "a")) := by
    decide +kernel
  rw [hsession] at hdecided
  obtain ⟨htotal, hchoices⟩ := Prod.mk.inj (Option.some.inj hdecided)
  obtain ⟨hchoices₁, hchoices₂⟩ := Prod.mk.inj hchoices
  have hidle := (Session.ofSettings?_eq_ok hsession).2
  have hresolve : (Directory.two.resolve 0).1.1 = .ok (.ofList [("a", "1"), ("b", "2")]) := rfl
  obtain ⟨run₁, hrun₁, huncut₁⟩ := Session.exists_uncut hidle hresolve (by
    rw [hchoices₁, htotal, List.length_replicate])
  obtain ⟨run₂, hrun₂, huncut₂⟩ := Session.exists_uncut hidle hresolve (by
    rw [hchoices₂, htotal, List.length_replicate])
  refine ⟨session, run₁, run₂, hsession, Session.agree_of_choices hsession rfl hresolve hresolve
    hrun₁ hrun₂ huncut₁ huncut₂ fun i choice₁ choice₂ h₁ h₂ => ?_⟩
  rw [hchoices₁] at h₁
  rw [hchoices₂, h₁] at h₂
  exact Option.some.inj h₂

end RouterTrial
