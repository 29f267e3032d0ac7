import Mathlib.Data.List.Forall2
import RouterTrial.Proofs.Fallible
import RouterTrial.Proofs.Schedule
import RouterTrial.Proofs.Transcript

/-!
# The course of a trial

What a trial does, attempt after attempt, with what the services answer left open. `Attempted` says
of one attempt which entries it adds to the transcript, what it comes to and which words it takes.
`Course` strings such attempts together, for any description of one attempt, each of them going on
where the one before it stopped. The attempts of every trial over every services take a course as
`Attempted` describes it (`course_of_attempts`), and the trial is cancelled exactly if the course is
shorter than its schedule.

Both are shown once here, by going through the code of an attempt and by induction on the number of
attempts that are left; all that is said of runs rests on the course alone.
-/

namespace RouterTrial

open Services (bind_apply pure_apply lift_apply transcribed_decide transcribed_execute
  transcribed_report transcribed_rest)

namespace Trial

variable {G : Type} [WordSource G]

/-! ### Placements -/

/-- The decision `d` leads to a skip if it names no connector or one without an account, and to a
payment otherwise. -/
private theorem place_cases (roster : Roster) (d : Decision) :
    (d.connector = none ∧ place roster d = .skip .noDecision) ∨
      (∃ connector, d.connector = some connector ∧ roster.account? connector = none ∧
        place roster d = .skip (.unknownConnector connector)) ∨
      ∃ connector account, d.connector = some connector ∧
        roster.account? connector = some account ∧ place roster d = .pay connector account := by
  unfold place
  cases d.connector with
  | none => exact .inl ⟨rfl, rfl⟩
  | some connector =>
    cases haccount : roster.account? connector with
    | none =>
      refine .inr (.inl ⟨connector, rfl, haccount, ?_⟩)
      simp only [haccount]
    | some account =>
      refine .inr (.inr ⟨connector, account, rfl, haccount, ?_⟩)
      simp only [haccount]

/-- An attempt is skipped for want of a decision or of an account, as the `reason` says. -/
theorem reason_of_place_eq_skip {roster : Roster} {d : Decision} {reason : SkipReason}
    (h : place roster d = .skip reason) :
    (d.connector = none ∧ reason = .noDecision) ∨
      ∃ connector, d.connector = some connector ∧ roster.account? connector = none ∧
        reason = .unknownConnector connector := by
  rcases place_cases roster d with ⟨hnone, hskip⟩ | ⟨connector, hconnector, haccount, hskip⟩ |
    ⟨_, _, -, -, hpay⟩
  · exact .inl ⟨hnone, Placement.skip.inj (h.symm.trans hskip)⟩
  · exact .inr ⟨connector, hconnector, haccount, Placement.skip.inj (h.symm.trans hskip)⟩
  · exact absurd (hpay.symm.trans h) nofun

/-- A payment goes to the `connector` that was decided on and to its `account`. -/
theorem connector_of_place_eq_pay {roster : Roster} {d : Decision} {connector account : String}
    (h : place roster d = .pay connector account) :
    d.connector = some connector ∧ roster.account? connector = some account := by
  rcases place_cases roster d with ⟨-, hskip⟩ | ⟨_, -, -, hskip⟩ |
    ⟨_, _, hconnector, haccount, hpay⟩
  · exact absurd (hskip.symm.trans h) nofun
  · exact absurd (hskip.symm.trans h) nofun
  · obtain ⟨rfl, rfl⟩ := Placement.pay.inj (hpay.symm.trans h)
    exact ⟨hconnector, haccount⟩

/-! ### One attempt -/

/-- The identifier in a record or a skip. -/
def Outcome.id : Outcome → AttemptId
  | recorded record => record.id
  | skipped skip => skip.id

/-- The phase in a record or a skip. -/
def Outcome.phase : Outcome → Phase
  | recorded record => record.phase
  | skipped skip => skip.phase

/-- What the decision service is asked at the attempt number `index`. -/
def query (t : Trial) (roster : Roster) (index : Nat) : DecisionQuery :=
  ⟨.ofIndex index, roster.names, t.ranking, t.attributes⟩

/-- The card of the payment of an attempt, and the source behind all draws of the attempt from `g`
on. -/
def cardFor (t : Trial) (w : Window) (connector : String) (g : G) : Card × G :=
  t.finalCard w connector (t.firstCard w g)

/-- What the attempt number `index` adds to the transcript, what it comes to, and the source of
words that it leaves, where `g` is the one that it starts from. -/
inductive Attempted (t : Trial) (roster : Roster) (index : Nat) (g : G) :
    Transcript → Outcome → G → Prop
  | skipped {w : Window} {decision : Decision} {reason : SkipReason}
      (hwindow : t.schedule.window? index = some w)
      (hplace : place roster decision = .skip reason) :
      Attempted t roster index g [.decided (t.query roster index) decision]
        (.skipped ⟨.ofIndex index, w.phase, reason⟩) (t.firstCard w g).2
  | paid {w : Window} {decision : Decision} {connector account : String} {answer : PaymentAnswer}
      {acknowledged : Except Fault Acknowledgement}
      (hwindow : t.schedule.window? index = some w)
      (hplace : place roster decision = .pay connector account) :
      Attempted t roster index g
        [.decided (t.query roster index) decision,
          .executed ⟨.ofIndex index, connector, account, (t.cardFor w connector g).1⟩ answer,
          .reported ⟨connector, .ofText answer.status, .ofIndex index⟩ acknowledged]
        (.recorded
          (recordOf (.ofIndex index) w decision connector (t.cardFor w connector g).1 answer))
        (t.cardFor w connector g).2

/-- What an attempt comes to, its `outcome`, has its identifier and the phase of its window. -/
theorem Attempted.id_phase {t : Trial} {roster : Roster} {index : Nat} {g g' : G}
    {entries : Transcript} {outcome : Outcome}
    (h : Attempted t roster index g entries outcome g') :
    outcome.id = .ofIndex index ∧
      ∃ w, t.schedule.window? index = some w ∧ outcome.phase = w.phase := by
  cases h with
  | skipped hwindow _ => exact ⟨rfl, _, hwindow, rfl⟩
  | paid hwindow _ => exact ⟨rfl, _, hwindow, rfl⟩

/-- The status of a record is that of the `answer`. -/
theorem recordOf_status (id : AttemptId) (w : Window) (decision : Decision) (connector : String)
    (card : Card) (answer : PaymentAnswer) :
    (recordOf id w decision connector card answer).status = .ofText answer.status := by
  rw [recordOf]

/-- **Step.** Every attempt does what `Attempted` says, whatever the services answer. -/
theorem attempted_of_attempt {σ : Type} (t : Trial) (services : Services (StateM σ))
    (roster : Roster) {index : Nat} {w : Window} (hwindow : t.schedule.window? index = some w)
    (g : G) (transcript : Transcript) (s : σ) :
    let made := (t.attempt services.transcribed roster index w g transcript s).1
    ∃ entries, made.2 = transcript ++ entries ∧ made.1.1.index = index ∧
      Attempted t roster index g entries made.1.1.outcome made.1.2 := by
  unfold attempt
  simp only [bind_apply, transcribed_decide]
  rw [show (⟨.ofIndex index, roster.names, t.ranking, t.attributes⟩ : DecisionQuery)
    = t.query roster index from rfl]
  generalize services.decide (t.query roster index) s = decided
  cases hplace : place roster decided.1 with
  | skip reason => exact ⟨[.decided _ decided.1], rfl, rfl, .skipped hwindow hplace⟩
  | pay connector account =>
    simp only [bind_apply, transcribed_execute]
    generalize services.execute _ _ = paid
    simp only [recordOf_status, transcribed_report, pure_apply]
    generalize services.report _ _ = told
    refine ⟨[.decided _ decided.1, .executed _ paid.1, .reported _ told.1], ?_, trivial,
      .paid hwindow hplace⟩
    rw [List.append_assoc, List.append_assoc]
    rfl

/-! ### All attempts -/

/-- Attempts one after the other that `R` describes, from a number and a source of words on: the
steps that they make, what they add to the transcript, and the source that they leave. -/
inductive Course (R : Nat → G → Transcript → Outcome → G → Prop) :
    Nat → G → List Step → Transcript → G → Prop
  | done {index : Nat} {g : G} : Course R index g [] [] g
  | next {index : Nat} {g g' g'' : G} {step : Step} {steps : List Step}
      {entries transcript : Transcript} (hindex : step.index = index)
      (hmade : R index g entries step.outcome g')
      (hrest : Course R (index + 1) g' steps transcript g'') :
      Course R index g (step :: steps) (entries ++ transcript) g''

namespace Course

variable {G : Type} {R R' : Nat → G → Transcript → Outcome → G → Prop} {index : Nat} {g g' : G}
  {steps : List Step} {transcript : Transcript}

/-- A course stays one if its attempts may be described otherwise, by `R'`. -/
theorem mono (hR : ∀ {index g entries outcome g'}, R index g entries outcome g' →
    R' index g entries outcome g') (h : Course R index g steps transcript g') :
    Course R' index g steps transcript g' := by
  induction h with
  | done => exact .done
  | next hindex hmade _ ih => exact .next hindex (hR hmade) ih

/-- The `steps` of a course are numbered without a gap. -/
theorem map_index (h : Course R index g steps transcript g') :
    steps.map (·.index) = List.range' index steps.length := by
  induction h with
  | done => rfl
  | next hindex _ _ ih => rw [List.map_cons, hindex, ih, List.length_cons, List.range'_succ]

/-- The `transcript` of a course is made of what its steps add to it. -/
theorem exists_blocks (h : Course R index g steps transcript g') :
    ∃ blocks : List Transcript, transcript = blocks.flatten ∧
      List.Forall₂ (fun block step => ∃ g₁ g₂, R step.index g₁ block step.outcome g₂)
        blocks steps := by
  induction h with
  | done => exact ⟨[], rfl, .nil⟩
  | @next _ _ _ _ step _ entries _ hindex hmade _ ih =>
    obtain ⟨blocks, hwhole, hblocks⟩ := ih
    refine ⟨entries :: blocks, by rw [hwhole, List.flatten_cons], .cons ?_ hblocks⟩
    rw [hindex]
    exact ⟨_, _, hmade⟩

/-- Every `step` of a course is an attempt with its number. -/
theorem exists_made (h : Course R index g steps transcript g') {step : Step}
    (hstep : step ∈ steps) : ∃ entries g₁ g₂, R step.index g₁ entries step.outcome g₂ := by
  induction h with
  | done => cases hstep
  | next hindex hmade _ ih =>
    rcases List.mem_cons.mp hstep with rfl | hstep
    · rw [hindex]
      exact ⟨_, _, _, hmade⟩
    · exact ih hstep

/-- What `pick` takes out of the entries of a course comes from its steps, one after the other, if
that is so for every attempt. -/
theorem filterMap_eq (h : Course R index g steps transcript g') {α : Type}
    (pick : Entry → Option α) (of : Outcome → Option α)
    (hof : ∀ {index g entries outcome g'}, R index g entries outcome g' →
      entries.filterMap pick = (of outcome).toList) :
    transcript.filterMap pick = steps.filterMap fun step => of step.outcome := by
  induction h with
  | done => rfl
  | @next _ _ _ _ step _ _ _ _ hmade _ ih =>
    rw [List.filterMap_append, hof hmade, ih, List.filterMap_cons]
    cases of step.outcome <;> rfl

end Course

section Unfolding

variable {σ : Type} {t : Trial} {services : Services (StateM σ)} (roster : Roster)
  (left : Nat) {index : Nat} (g : G) (transcript : Transcript) {s : σ}

/-- A trial that has been cancelled (`Services.isCancelled`) makes no attempt. -/
private theorem attempts_apply_of_cancelled (h : (services.isCancelled s).1 = true) :
    t.attempts services.transcribed roster (left + 1) index g transcript s
      = ((⟨[], true, g⟩, transcript), (services.isCancelled s).2) := by
  rw [attempts]
  change (if (services.isCancelled s).1 = true then _ else _ : StateT Transcript (StateM σ) _)
    transcript (services.isCancelled s).2 = _
  rw [if_pos h]
  rfl

/-- A trial that has not been cancelled makes the next attempt and goes on behind it, with a window
`w`. -/
private theorem attempts_apply_of_window? {w : Window} (h : ¬(services.isCancelled s).1 = true)
    (hwindow : t.schedule.window? index = some w) :
    ∃ s' : σ,
      let made := (t.attempt services.transcribed roster index w g transcript
        (services.isCancelled s).2).1
      let more := (t.attempts services.transcribed roster left (index + 1) made.1.2 made.2 s').1
      (t.attempts services.transcribed roster (left + 1) index g transcript s).1
        = (⟨made.1.1 :: more.1.steps, more.1.cancelled, more.1.source⟩, more.2) := by
  rw [attempts]
  change ∃ s', ((if (services.isCancelled s).1 = true then _ else _ :
    StateT Transcript (StateM σ) _) transcript (services.isCancelled s).2).1 = _
  rw [if_neg h, hwindow]
  simp only [bind_apply, transcribed_rest, pure_apply]
  exact ⟨_, rfl⟩

end Unfolding

/-- **Run.** The attempts that are `left` take a `Course`, and they are cut short exactly if the
trial is cancelled. -/
theorem course_of_attempts {σ : Type} (t : Trial) (services : Services (StateM σ))
    (roster : Roster) (left index : Nat) (hindex : 1 ≤ index)
    (hleft : index + left = t.schedule.total + 1) (g : G) (transcript : Transcript) (s : σ) :
    let made := (t.attempts services.transcribed roster left index g transcript s).1
    ∃ entries, made.2 = transcript ++ entries ∧
      Course (t.Attempted roster) index g made.1.steps entries made.1.source ∧
      made.1.steps.length ≤ left ∧ (made.1.cancelled = true ↔ made.1.steps.length < left) := by
  -- the number and what is left add up to one more than the total all the way, so every attempt
  -- has a window
  induction left generalizing index g transcript s with
  | zero => exact ⟨[], (List.append_nil _).symm, .done, Nat.le_refl 0, nofun, nofun⟩
  | succ left ih =>
    by_cases hcancelled : (services.isCancelled s).1 = true
    · rw [attempts_apply_of_cancelled roster left g transcript hcancelled]
      exact ⟨[], (List.append_nil _).symm, .done, Nat.zero_le _, fun _ => Nat.zero_lt_succ _,
        fun _ => rfl⟩
    · obtain ⟨w, hwindow⟩ := Schedule.exists_window? hindex (show index ≤ t.schedule.total by omega)
      obtain ⟨s', hmore⟩ := attempts_apply_of_window? roster left g transcript hcancelled hwindow
      obtain ⟨entries, hentries, hnumber, hmade⟩ := attempted_of_attempt t services roster hwindow g
        transcript (services.isCancelled s).2
      rw [hmore]
      generalize (t.attempt services.transcribed roster index w g transcript
        (services.isCancelled s).2).1 = made at hentries hnumber hmade ⊢
      obtain ⟨entries', hentries', hcourse, hlength, hcut⟩ :=
        ih (index + 1) (by omega) (by omega) made.1.2 made.2 s'
      refine ⟨entries ++ entries', ?_, .next hnumber hmade hcourse, ?_, ?_⟩
      · rw [hentries', hentries, List.append_assoc]
      · rw [List.length_cons]
        omega
      · rw [List.length_cons, hcut]
        omega

/-- Attempts of `t` that nobody asks to stop are not cut short. -/
theorem uncancelled_of_attempts {σ : Type} (t : Trial) {services : Services (StateM σ)}
    (hquiet : ∀ s, (services.isCancelled s).1 = false) (roster : Roster) (left index : Nat)
    (hindex : 1 ≤ index) (hleft : index + left = t.schedule.total + 1) (g : G)
    (transcript : Transcript) (s : σ) :
    (t.attempts services.transcribed roster left index g transcript s).1.1.cancelled = false := by
  induction left generalizing index g transcript s with
  | zero => rfl
  | succ left ih =>
    have hgoes : ¬(services.isCancelled s).1 = true := by
      rw [hquiet s]
      nofun
    obtain ⟨w, hwindow⟩ := Schedule.exists_window? hindex (show index ≤ t.schedule.total by omega)
    obtain ⟨s', hmore⟩ := attempts_apply_of_window? roster left g transcript hgoes hwindow
    rw [hmore]
    exact ih (index + 1) (by omega) (by omega) _ _ s'

/-! ### Sessions -/

end Trial

namespace Session

/-- The `session` of settings `s` is idle and holds their trial. -/
theorem ofSettings?_eq_ok {s : Settings} {session : Session} (h : ofSettings? s = .ok session) :
    Trial.ofSettings? s = .ok session.trial ∧ session.state = .idle := by
  obtain ⟨trial, htrial, rfl⟩ := map_eq_ok_iff.mp h
  exact ⟨htrial, rfl⟩

variable {σ : Type} {session : Session} (services : Services (StateM σ))
  {directory : Directory (StateM σ)} (entropy : Keystream) {s : σ} {roster : Roster}

/-- The first run of a `session` whose directory gives a `roster` succeeds, and comes to what the
attempts of its trial come to. -/
private theorem exists_attempts_of_watch (hidle : session.state = .idle)
    (hresolve : (directory.resolve s).1.1 = .ok roster) :
    ∃ s' : σ,
      let made := (session.trial.attempts services.transcribed roster session.trial.schedule.total 1
        (session.trial.source entropy) [] s').1
      (session.watch services directory entropy s).1.result
          = .ok ⟨made.1.steps, made.1.cancelled⟩ ∧
        (session.watch services directory entropy s).2 = made.2 := by
  unfold watch Session.run Trial.run
  rw [hidle, Directory.resolve_lift]
  simp only [bind_apply, lift_apply]
  rw [hresolve]
  simp only [bind_apply, transcribed_rest, pure_apply]
  exact ⟨_, rfl, rfl⟩

/-- **Sessions.** The steps and the transcript of the first run of a `session` are a course of its
trial, and the run is cancelled exactly if the course is short. -/
theorem course_of_watch (hidle : session.state = .idle)
    (hresolve : (directory.resolve s).1.1 = .ok roster) :
    ∃ run g, (session.watch services directory entropy s).1.result = .ok run ∧
      Trial.Course (session.trial.Attempted roster) 1 (session.trial.source entropy) run.steps
        (session.watch services directory entropy s).2 g ∧
      run.processed ≤ session.trial.schedule.total ∧
      (run.cancelled = true ↔ run.processed < session.trial.schedule.total) := by
  obtain ⟨s', hresult, htranscript⟩ := exists_attempts_of_watch services entropy hidle hresolve
  obtain ⟨entries, hentries, hcourse, hlength, hcut⟩ := Trial.course_of_attempts session.trial
    services roster session.trial.schedule.total 1 (Nat.le_refl 1) (Nat.add_comm 1 _)
    (session.trial.source entropy) [] s'
  rw [List.nil_append] at hentries
  rw [htranscript, hentries]
  exact ⟨_, _, hresult, hcourse, hlength, hcut⟩

end Session

/-! ### A small trial -/

/-- Settings for four attempts, with two rates under one name. -/
def Settings.four : Settings :=
  { ofLookup (fun _ => none) with total := 4, seed := some 7, rates := [("a", 0), ("a", 100)] }

/-- A directory of two connectors. -/
def Directory.two : Directory (StateM Nat) := .ofFixed [("a", "1"), ("b", "2")]

namespace Services

/-- Services that answer alike every time, until the trial is stopped behind `limit` attempts. -/
def steady (limit : Nat) (decision : Decision) (answer : PaymentAnswer)
    (acknowledged : Except Fault Acknowledgement) : Services (StateM Nat) where
  decide _ := pure decision
  execute _ := pure answer
  report _ := pure acknowledged
  wait _ := pure ()
  isCancelled := fun asked => (limit ≤ asked, asked + 1)

/-- Services that explore one `connector`, with which all payments are declined. -/
def declining (limit : Nat) (connector : String) : Services (StateM Nat) :=
  steady limit ⟨some connector, .empty, .unknown⟩ (.standIn "0" .fail) (.ok ⟨200, ""⟩)

/-- Services that exploit one `connector`, charge all payments, and take no feedback. -/
def charging (limit : Nat) (connector : String) : Services (StateM Nat) :=
  steady limit ⟨some connector, .empty, .selection⟩ ⟨none, "charged", none, none, none, false⟩
    (.error ConfigurationFault.spent.fault)

end Services

end RouterTrial
