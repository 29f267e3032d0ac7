import RouterTrial.Proofs.Exchange.Payment
import RouterTrial.Proofs.Trial.Cancellation
import RouterTrial.Proofs.Trial.Draws
import RouterTrial.Proofs.Trial.Phases
import RouterTrial.Proofs.Trial.Simulated

/-!
# Trials without a payment endpoint

A trial whose payment endpoint cannot be reached still runs to its end: the stand-in answers for
each card (`Settings.standsIn_services`). The report on such a trial is about the cards and about
nothing else (`Report.Offline`). It counts every payment as one of the stand-in, the cards that
succeed as successes and the others as failures, and names the one message of the stand-in for all
of these.

The feedback does not go to the stand-in. It names the connector that was decided on for the payment
(`Course.decided_of_reported`), so the name of the stand-in comes up in it only where the directory
has a connector of that name and that connector is decided on.
-/

namespace RouterTrial

/-! ### Answers of the stand-in -/

/-- Every payment of `t` was answered by the stand-in for its card. -/
def Transcript.StandsIn (t : Transcript) : Prop :=
  ∀ execution ∈ t.executions, ∃ token, execution.2 = .standIn token execution.1.card

/-- The record `r` is one of a payment that the stand-in answered: it says what the card says. -/
structure Record.StoodIn (r : Record) : Prop where
  processedBy : r.processedBy = "simulated_connector"
  charged : r.card = .success → r.status = .charged ∧ r.errorMessage = none
  declined : r.card = .fail →
    r.status = .failure ∧ r.errorMessage = some "Simulated decline for test card"

/-- A record of a payment that the stand-in answered says what its `card` says. -/
private theorem Trial.stoodIn_recordOf (id : AttemptId) (w : Window) (decision : Decision)
    (connector token : String) (card : Card) :
    (recordOf id w decision connector card (.standIn token card)).StoodIn := by
  have hstatus := recordOf_status id w decision connector card (.standIn token card)
  cases card with
  | success => exact ⟨rfl, fun _ => ⟨hstatus.trans Status.ofText_succeeded, rfl⟩, nofun⟩
  | fail => exact ⟨rfl, nofun, fun _ => ⟨hstatus.trans Status.ofText_failed, rfl⟩⟩

namespace Record.StoodIn

variable {r : Record}

theorem wentThrough_iff (h : r.StoodIn) : r.WentThrough ↔ r.card = .success := by
  rw [WentThrough]
  cases hcard : r.card with
  | success => simp [(h.charged hcard).1]
  | fail => simp [(h.declined hcard).1]

theorem errorMessage_eq (h : r.StoodIn) :
    r.errorMessage = if r.card = .fail then some standInDecline else none := by
  cases hcard : r.card with
  | success => simp [(h.charged hcard).2]
  | fail => simp [(h.declined hcard).2, standInDecline]

end Record.StoodIn

/-! ### Services without an endpoint -/

section Services

variable {σ : Type}

/-- Every payment is answered by the stand-in for its card, whatever has happened before. -/
def Services.StandsIn (services : Services (StateM σ)) : Prop :=
  ∀ order s, ∃ token, (services.execute order s).1 = .standIn token order.card

/-- The stand-in answers for the payment of an `order` whose exchange fails. -/
theorem PaymentService.exists_execute_eq_standIn (p : PaymentService) {network : Network (StateM σ)}
    (token : StateM σ String) {order : PaymentOrder} {s : σ}
    (hfailed : (network.exchange (p.orderRequest order) s).1 = .failed) :
    ∃ given, (p.execute network token order s).1 = .standIn given order.card := by
  have hsend : (network.send (p.orderRequest order) s).1 = .failed := by
    unfold Network.send
    split
    · exact hfailed
    · rfl
  rw [execute_apply, hsend]
  exact ⟨_, rfl⟩

/-- If no payment gets to its endpoint, the stand-in answers for all of them: the services
`StandsIn`. -/
theorem Settings.standsIn_services {settings : Settings} {host : Host (StateM σ)}
    (hfailed : ∀ order s,
      (host.network.exchange (settings.paymentService.orderRequest order) s).1 = .failed) :
    (settings.services host).StandsIn := by
  intro order s
  rw [services]
  exact settings.paymentService.exists_execute_eq_standIn host.token (hfailed order s)

theorem Transcript.StandsIn.append {t u : Transcript} (ht : t.StandsIn) (hu : u.StandsIn) :
    StandsIn (t ++ u) := by
  intro execution hexecution
  rw [executions, List.filterMap_append, List.mem_append] at hexecution
  exact hexecution.elim (ht execution) (hu execution)

variable {services : Services (StateM σ)}

/-- Services of the stand-in keep writing answers of the stand-in, as `Transcript.StandsIn` says. -/
private theorem Services.StandsIn.transcribed_coupled (h : services.StandsIn) :
    Coupled (.keeping (fun t (_ : Transcript) => t.StandsIn) σ) services.transcribed
      services.transcribed where
  decide _ _ _ _ ht := ⟨rfl, ht.append nofun, rfl⟩
  execute order t u s ht := by
    refine ⟨rfl, ht.append fun execution hexecution => ?_, rfl⟩
    rw [List.mem_singleton.mp hexecution]
    exact h order s
  report _ _ _ _ ht := ⟨rfl, ht.append nofun, rfl⟩
  wait _ _ _ _ ht := ⟨rfl, ht, rfl⟩
  isCancelled _ _ _ ht := ⟨rfl, ht, rfl⟩

/-- With services of the stand-in, it answers for every payment of a run of the `session`. -/
private theorem Session.standsIn_watch (h : services.StandsIn) (session : Session)
    (directory : Directory (StateM σ)) (entropy : Keystream) (s : σ) :
    (session.watch services directory entropy s).2.StandsIn := by
  have hresolve : (Coupling.keeping (fun (t : Transcript) (_ : Transcript) => t.StandsIn) σ).Rel Eq
      (directory.lift StateT.lift).resolve (directory.lift StateT.lift).resolve := by
    rw [Directory.resolve_lift]
    exact fun _ _ _ ht => ⟨rfl, ht, rfl⟩
  exact (session.run_coupled h.transcribed_coupled hresolve entropy [] [] s nofun).2.1

end Services

/-! ### Error messages -/

/-- The key `k` that occurs alone has the only entry. -/
private theorem countKeys_replicate {κ : Type} [Ord κ] [Std.LawfulEqOrd κ] (n : Nat) (k : κ) :
    (countKeys (List.replicate n k)).entries = if n = 0 then [] else [(k, n)] := by
  induction n with
  | zero => rfl
  | succ n ih =>
    rw [countKeys, List.replicate_succ', List.foldl_append, List.foldl_cons, List.foldl_nil]
    change Table.alterIn k _ (countKeys (List.replicate n k)).entries = _
    rw [ih]
    by_cases hn : n = 0
    · rw [if_pos hn, hn]
      rfl
    · rw [if_neg hn, Table.alterIn, Std.LawfulEqOrd.compare_eq_iff_eq.mpr rfl]
      rfl

/-- A `message` that occurs alone is the most frequent one. -/
private theorem topErrors_replicate (n : Nat) (message : String) :
    topErrors (List.replicate n message) = if n = 0 then [] else [⟨message, n⟩] := by
  rw [topErrors, countKeys_replicate]
  by_cases hn : n = 0
  · rw [if_pos hn, if_pos hn, List.map_nil, List.mergeSort_nil, List.take_nil]
  · rw [if_neg hn, if_neg hn, List.map_singleton, List.mergeSort_singleton]
    rfl

/-- The error messages of the stand-in (`standInDecline`), one for each card that fails. -/
private theorem errorMessages_of_stoodIn {records : List Record} (h : ∀ r ∈ records, r.StoodIn) :
    errorMessages records
      = List.replicate (records.countP (·.card = .fail)) standInDecline := by
  have hmessages : records.filterMap (·.errorMessage)
      = List.replicate (records.countP (·.card = .fail)) standInDecline := by
    induction records with
    | nil => rfl
    | cons r records ih =>
      obtain ⟨hr, hrecords⟩ := List.forall_mem_cons.mp h
      rw [List.filterMap_cons, hr.errorMessage_eq, ih hrecords, List.countP_cons]
      by_cases hcard : r.card = .fail
      · simp only [hcard, if_true, decide_true, List.replicate_succ]
      · simp only [hcard, if_false, decide_false, Bool.false_eq_true, Nat.add_zero]
  have htrim : Text.trim standInDecline = standInDecline := by decide +kernel
  have hkept : ¬standInDecline.isEmpty := by decide +kernel
  rw [errorMessages, hmessages, List.map_replicate, htrim, List.filter_replicate, if_pos]
  simpa using hkept

/-! ### Reports -/

/-- The report `r` is about the cards of its `records` only. -/
structure Report.Offline (records : List Record) (r : Report) : Prop where
  simulated : r.simulated = r.attempts
  successes : r.successes = records.countP (·.card = .success)
  failures : r.failures = records.countP (·.card = .fail)
  byStatus : ∀ status ∈ r.byStatus.keys, status = .charged ∨ status = .failure
  forced : ∀ counts, r.perPhase.find? .forcedFailure = some counts → counts.successes = 0
  topErrors : r.topErrors
    = if r.failures = 0 then [] else [⟨"Simulated decline for test card", r.failures⟩]

private theorem Report.offline_of_count {records : List Record} {r : Report}
    (hcount : r.Count records) (hstood : ∀ record ∈ records, record.StoodIn)
    (hforced : ∀ record ∈ records, record.phase = .forcedFailure → record.card = .fail)
    (herrors : r.topErrors = RouterTrial.topErrors (errorMessages records)) :
    r.Offline records := by
  have hfailures : r.failures = records.countP (·.card = .fail) := by
    rw [hcount.failures]
    refine List.countP_congr fun record hrecord => ?_
    rw [decide_eq_true_iff, decide_eq_true_iff, (hstood record hrecord).wentThrough_iff]
    cases record.card <;> simp
  refine ⟨?_, ?_, hfailures, fun status hstatus => ?_, fun counts hcounts => ?_, ?_⟩
  · rw [hcount.simulated, hcount.attempts, List.countP_eq_length]
    exact fun record hrecord => decide_eq_true (hstood record hrecord).processedBy
  · rw [hcount.successes]
    refine List.countP_congr fun record hrecord => ?_
    rw [decide_eq_true_iff, decide_eq_true_iff, (hstood record hrecord).wentThrough_iff]
  · obtain ⟨record, hrecord, rfl⟩ := (hcount.byStatus.mem_keys status).mp hstatus
    cases hcard : record.card with
    | success => exact .inl ((hstood record hrecord).charged hcard).1
    | fail => exact .inr ((hstood record hrecord).declined hcard).1
  · rw [(hcount.perPhase.right_of_find? hcounts).successes, List.countP_eq_zero]
    intro record hrecord hthrough
    obtain ⟨hrecord, hphase⟩ := List.mem_filter.mp hrecord
    have hsuccess := (hstood record hrecord).wentThrough_iff.mp (of_decide_eq_true hthrough)
    cases hsuccess.symm.trans (hforced record hrecord (of_decide_eq_true hphase))
  · rw [herrors, errorMessages_of_stoodIn hstood, topErrors_replicate, hfailures]
    rfl

/-! ### The course of a trial -/

namespace Trial

section Courses

variable {G : Type} {R : Nat → G → Transcript → Outcome → G → Prop} {index : Nat} {g g' : G}
  {steps : List Step} {transcript : Transcript}

/-- What the attempt of a `step` adds to the transcript is in it. -/
private theorem Course.exists_entries_of_step (h : Course R index g steps transcript g')
    {step : Step} (hstep : step ∈ steps) :
    ∃ entries g₁ g₂, R step.index g₁ entries step.outcome g₂ ∧ entries.Sublist transcript := by
  induction h with
  | done => cases hstep
  | next hindex hmade _ ih =>
    rcases List.mem_cons.mp hstep with rfl | hstep
    · rw [hindex]
      exact ⟨_, _, _, hmade, List.sublist_append_left _ _⟩
    · obtain ⟨entries, g₁, g₂, hmade, hsublist⟩ := ih hstep
      exact ⟨entries, g₁, g₂, hmade, hsublist.trans (List.sublist_append_right _ _)⟩

section Ids

variable (hid : ∀ {index g entries outcome g'}, R index g entries outcome g' →
  ∀ entry ∈ entries, entry.id = .ofIndex index)

include hid

/-- The entries of a course belong to attempts from its first one on, the number `index`. -/
private theorem Course.exists_index_of_mem (h : Course R index g steps transcript g')
    {entry : Entry} (hentry : entry ∈ transcript) :
    ∃ index' ≥ index, entry.id = .ofIndex index' := by
  induction h with
  | done => cases hentry
  | next _ hmade _ ih =>
    rcases List.mem_append.mp hentry with hentry | hentry
    · exact ⟨_, Nat.le_refl _, hid hmade entry hentry⟩
    · obtain ⟨index', hle, hid'⟩ := ih hentry
      exact ⟨index', Nat.le_of_succ_le hle, hid'⟩

/-- The entries with the identifier of `entry` are those of its attempt. -/
private theorem Course.exists_entries_of_mem (h : Course R index g steps transcript g')
    {entry : Entry} (hentry : entry ∈ transcript) :
    ∃ index' g₁ entries outcome g₂, R index' g₁ entries outcome g₂ ∧
      ∀ other, other ∈ entries ↔ other ∈ transcript ∧ other.id = entry.id := by
  induction h with
  | done => cases hentry
  | @next index g g₁ _ step _ entries transcript _ hmade hrest ih =>
    have hhead := hid hmade
    -- no attempt behind the first one has its identifier
    have htail : ∀ other ∈ transcript, other.id ≠ .ofIndex index := by
      intro other hother hsame
      obtain ⟨index', hle, hid'⟩ := hrest.exists_index_of_mem hid hother
      have := AttemptId.ofIndex_injective (hsame.symm.trans hid')
      omega
    rcases List.mem_append.mp hentry with hentry | hentry
    · refine ⟨index, g, entries, step.outcome, g₁, hmade, fun other => ?_⟩
      rw [hhead entry hentry, List.mem_append]
      refine ⟨fun hother => ⟨.inl hother, hhead other hother⟩, fun ⟨hother, hsame⟩ => ?_⟩
      exact hother.resolve_right fun hother => htail other hother hsame
    · obtain ⟨index', g₂, entries', outcome, g₃, hmade', hentries⟩ := ih hentry
      refine ⟨index', g₂, entries', outcome, g₃, hmade', fun other => ?_⟩
      rw [hentries, List.mem_append]
      refine ⟨fun ⟨hother, hsame⟩ => ⟨.inr hother, hsame⟩, fun ⟨hother, hsame⟩ => ⟨?_, hsame⟩⟩
      refine hother.resolve_left fun hother => htail entry hentry ?_
      rw [← hsame, hhead other hother]

end Ids

end Courses

section Course

variable {G : Type} [WordSource G] {settings : Settings} {t : Trial} {roster : Roster}
  {index : Nat} {g g' : G} {transcript : Transcript}

/-- The `feedback` names the connector that was decided on for the payment. -/
structure Decided (roster : Roster) (transcript : Transcript) (feedback : Feedback) : Prop where
  eligible : feedback.connector ∈ roster.names
  exists_decision : ∃ query decision,
    .decided query decision ∈ transcript ∧ query.id = feedback.id
  connector : ∀ query decision, .decided query decision ∈ transcript → query.id = feedback.id →
    decision.connector = some feedback.connector

/-- A `feedback` follows the decision that it is about. -/
theorem Attempted.decided_of_reported {outcome : Outcome}
    (h : Attempted t roster index g transcript outcome g') {feedback : Feedback}
    {acknowledged : Except Fault Acknowledgement}
    (hfeedback : .reported feedback acknowledged ∈ transcript) :
    Decided roster transcript feedback := by
  cases h with
  | skipped _ _ => cases List.mem_singleton.mp hfeedback
  | @paid _ decision connector account _ _ _ hplace =>
    obtain ⟨hconnector, haccount⟩ := connector_of_place_eq_pay hplace
    simp only [List.mem_cons, reduceCtorEq, Entry.reported.injEq, List.not_mem_nil, or_false,
      false_or] at hfeedback
    obtain ⟨rfl, rfl⟩ := hfeedback
    refine ⟨?_, ⟨_, _, List.mem_cons_self, rfl⟩, fun query decision' hdecided _ => ?_⟩
    · by_contra hmissing
      rw [Roster.account?_eq_none_iff.mpr hmissing] at haccount
      cases haccount
    · simp only [List.mem_cons, reduceCtorEq, Entry.decided.injEq, List.not_mem_nil,
        or_false] at hdecided
      rw [hdecided.2]
      exact hconnector

/-- The `feedback` of a course names what was decided on. -/
theorem Course.decided_of_reported {steps : List Step}
    (h : Course (t.Attempted roster) index g steps transcript g') {feedback : Feedback}
    (hfeedback : feedback ∈ transcript.feedbacks) : Decided roster transcript feedback := by
  obtain ⟨entry, hentry, hpicked⟩ := List.mem_filterMap.mp hfeedback
  cases entry with
  | decided query decision => cases hpicked
  | executed order answer => cases hpicked
  | reported given acknowledged =>
    obtain rfl := Option.some.inj hpicked
    obtain ⟨index', g₁, entries, outcome, g₂, hmade, hentries⟩ :=
      h.exists_entries_of_mem Attempted.id_of_mem hentry
    have hdecided := hmade.decided_of_reported ((hentries _).mpr ⟨hentry, rfl⟩)
    obtain ⟨query, decision, hquery, hid⟩ := hdecided.exists_decision
    exact ⟨hdecided.eligible, ⟨query, decision, ((hentries _).mp hquery).1, hid⟩,
      fun query decision hquery hid =>
        hdecided.connector query decision ((hentries _).mpr ⟨hquery, hid⟩) hid⟩

/-- The `record` of an attempt says what the stand-in answered for its card. -/
theorem Attempted.stoodIn {record : Record}
    (h : Attempted t roster index g transcript (.recorded record) g')
    (hstands : transcript.StandsIn) : record.StoodIn := by
  cases h with
  | @paid w decision connector account answer _ _ _ =>
    obtain ⟨token, htoken⟩ := hstands _ (List.mem_filterMap.mpr
      ⟨.executed _ answer, List.mem_cons_of_mem _ List.mem_cons_self, rfl⟩)
    change answer = _ at htoken
    rw [htoken]
    exact stoodIn_recordOf _ w decision connector token _

/-- The records of a course say what the stand-in answered for their cards: they are
`Record.StoodIn`. -/
theorem Course.stoodIn {run : Run}
    (h : Course (t.Attempted roster) index g run.steps transcript g')
    (hstands : transcript.StandsIn) : ∀ record ∈ run.ledger.records, record.StoodIn := by
  intro record hrecord
  obtain ⟨step, hstep, houtcome⟩ := Run.mem_records_ledger.mp hrecord
  obtain ⟨entries, g₁, g₂, hmade, hsublist⟩ := h.exists_entries_of_step hstep
  rw [houtcome] at hmade
  exact hmade.stoodIn fun execution hexecution =>
    hstands execution ((hsublist.filterMap _).subset hexecution)

/-- The records of the phase of forced failure, `Phase.forcedFailure`, have cards that fail. -/
theorem Course.card_eq_of_forcedFailure (hfollows : Follows settings t) {run : Run}
    (h : Course (t.Attempted roster) 1 g run.steps transcript g') :
    ∀ record ∈ run.ledger.records, record.phase = .forcedFailure → record.card = .fail := by
  intro record hrecord hphase
  obtain ⟨step, hstep, houtcome⟩ := Run.mem_records_ledger.mp hrecord
  obtain ⟨entries, g₁, g₂, hmade⟩ := h.exists_made hstep
  obtain ⟨-, w, hwindow, hw⟩ := hmade.id_phase
  rw [houtcome, Outcome.phase, hphase] at hw
  exact (h.draws hfollows).forced step hstep record houtcome
    ((hfollows.phase_iff hwindow).mp hw.symm)

end Course

end Trial

/-! ### Sessions -/

/-- **Offline.** If the stand-in answers for every payment of a run (`Services.StandsIn`), the
records and the report on the run say what the cards say, and nothing else (`Report.Offline`), for
all settings that are accepted, all decisions and all answers to feedback; and the feedback is about
the connectors that were decided on, all of which are connectors of the directory. -/
theorem Session.exists_offline {settings : Settings} {session : Session}
    (hsession : Session.ofSettings? settings = .ok session) {σ : Type}
    (services : Services (StateM σ)) {directory : Directory (StateM σ)} (entropy : Keystream)
    {s : σ} {roster : Roster} (hresolve : (directory.resolve s).1.1 = .ok roster)
    (hstands : (session.watch services directory entropy s).2.StandsIn) :
    ∃ run : Trial.Run, (session.run services directory entropy s).1.result = .ok run ∧
      (∀ record ∈ run.ledger.records, record.StoodIn) ∧
      (∀ (generatedAt : Instant) (summarizer : Option (Summarizer (StateM σ))) (s' : σ),
        (run.ledger.reportWith generatedAt summarizer s').1.1.Offline run.ledger.records) ∧
      ∀ feedback ∈ (session.watch services directory entropy s).2.feedbacks,
        Trial.Decided roster (session.watch services directory entropy s).2 feedback := by
  obtain ⟨hfollows, run, g, hresult, hcourse, -, -⟩ :=
    Session.course_of_run hsession services entropy hresolve
  have hstood := hcourse.stoodIn hstands
  refine ⟨run, hresult, hstood, fun generatedAt summarizer s' => ?_, fun feedback hfeedback =>
    hcourse.decided_of_reported hfeedback⟩
  obtain ⟨hcount, -, herrors⟩ := run.ledger.count_reportWith generatedAt summarizer s'
  exact Report.offline_of_count hcount hstood (hcourse.card_eq_of_forcedFailure hfollows) herrors

/-- Services that explore one `connector`, with which the stand-in answers for every payment. -/
def Services.offline (limit : Nat) (connector : String) : Services (StateM Nat) :=
  { declining limit connector with execute := fun order => pure (.standIn "0" order.card) }

theorem Services.standsIn_offline (limit : Nat) (connector : String) :
    (offline limit connector).StandsIn := fun _ _ => ⟨"0", rfl⟩

/-- The stand-in answers for three payments, of which the last one is forced to fail. -/
theorem Session.exists_offline_of_cancelled :
    ∃ (session : Session) (run : Trial.Run), Session.ofSettings? .four = .ok session ∧
      (session.run (.offline 3 "a") .two (.ofSeed 0) 0).1.result = .ok run ∧
      (∀ record ∈ run.ledger.records, record.StoodIn) ∧
      (run.ledger.report ⟨0, 0⟩).Offline run.ledger.records ∧
      (run.ledger.report ⟨0, 0⟩).topErrors = [⟨"Simulated decline for test card", 1⟩] := by
  obtain ⟨session, hsession⟩ : ∃ session, Session.ofSettings? .four = .ok session := ⟨_, rfl⟩
  have hresolve : (Directory.two.resolve 0).1.1 = .ok (.ofList [("a", "1"), ("b", "2")]) := rfl
  have hfailures : (Session.ofSettings? .four).toOption.map (fun session =>
      ((session.run (.offline 3 "a") .two (.ofSeed 0) 0).1.result.map
        fun run => (run.ledger.report ⟨0, 0⟩).failures).toOption) = some (some 1) := by
    decide +kernel
  obtain ⟨run, hrun, hstood, hreports, -⟩ := Session.exists_offline hsession (.offline 3 "a")
    (.ofSeed 0) hresolve (session.standsIn_watch (Services.standsIn_offline 3 "a") .two _ 0)
  have hoffline : (run.ledger.report ⟨0, 0⟩).Offline run.ledger.records := hreports ⟨0, 0⟩ none 0
  rw [hsession] at hfailures
  simp only [Except.toOption, Option.map_some, hrun] at hfailures
  replace hfailures : (run.ledger.report ⟨0, 0⟩).failures = 1 :=
    Option.some.inj (Option.some.inj hfailures)
  refine ⟨session, run, hsession, hrun, hstood, hoffline, ?_⟩
  rw [hoffline.topErrors, hfailures]
  rfl

/-- A directory may have a connector with the name of the stand-in. -/
def Directory.namesake : Directory (StateM Nat) := .ofFixed [("simulated_connector", "1")]

/-- Settings for one attempt, whose payment succeeds. -/
def Settings.single : Settings := { ofLookup (fun _ => none) with total := 1, baseline := 100 }

/-- If that connector is decided on, feedback is given under the name of the stand-in. -/
theorem Session.exists_feedback_standIn :
    ∃ session : Session, Session.ofSettings? .single = .ok session ∧
      (Directory.namesake.resolve 0).1.1 = .ok (.ofList [("simulated_connector", "1")]) ∧
      (session.watch (.offline 1 "simulated_connector") .namesake (.ofSeed 0) 0).2.StandsIn ∧
      (session.watch (.offline 1 "simulated_connector") .namesake (.ofSeed 0) 0).2.feedbacks
        = [⟨"simulated_connector", .charged, .ofIndex 1⟩] := by
  obtain ⟨session, hsession⟩ : ∃ session, Session.ofSettings? .single = .ok session := ⟨_, rfl⟩
  refine ⟨session, hsession, rfl,
    session.standsIn_watch (Services.standsIn_offline 1 _) .namesake _ 0, ?_⟩
  obtain rfl := Except.ok.inj hsession
  decide +kernel

end RouterTrial
