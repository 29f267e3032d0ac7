import RouterTrial.Proofs.Exchange.Dialogue
import RouterTrial.Proofs.Report.Ledger
import RouterTrial.Proofs.Settings

/-!
# The program and its servers

The program is at the mercy of its servers for what it reports, but not for whether it does. It
fails only for settings that cannot be used and for want of a connector. In every other case it
makes all its attempts, whatever the servers answer and whichever exchanges fail, and prints the
report on them.
-/

namespace RouterTrial

/-! ### Reports -/

/-- Every attempt of the run `r` is recorded or skipped. -/
theorem Trial.Run.length_ledger (r : Trial.Run) :
    r.ledger.records.length + r.ledger.skips.length = r.processed := by
  rw [ledger, processed]
  induction r.steps with
  | nil => rfl
  | cons step steps ih =>
    rw [List.filterMap_cons, List.filterMap_cons, List.length_cons, ← ih]
    cases step.outcome with
    | recorded record =>
      simp only [record?, skip?, List.length_cons]
      omega
    | skipped skip =>
      simp only [record?, skip?, List.length_cons]
      omega

/-- Whatever the `summarizer` answers, the report has the counts of the ledger `l`. -/
theorem Ledger.exists_narrative {σ : Type} (l : Ledger) (generatedAt : Instant)
    (summarizer : Option (Summarizer (StateM σ))) (state : σ) :
    ∃ narrative, (l.reportWith generatedAt summarizer state).1.1
      = { l.report generatedAt with narrative } := by
  obtain ⟨log, hreport⟩ := l.exists_reportWith_eq generatedAt summarizer state
  exact ⟨_, by rw [hreport]⟩

namespace CommandLine

/-- The run is reported on, and what was attempted, the `dialogues`, agrees with the numbers of the
report. -/
structure Reports (s : Settings) (trialRun : Trial.Run) (dialogues : List (List Exchange))
    (report : Report) : Prop where
  counts : ∃ generatedAt narrative,
    report = { trialRun.ledger.report generatedAt with narrative }
  total : ((report.attempts + report.skipped : Nat) : Int) = s.total
  decisions :
    (dialogues.flatten.countP (Exchange.isTo s.decisionUrl "/decide-gateway") : Int) = s.total
  payments : dialogues.flatten.countP (Exchange.isTo s.paymentsUrl "/payments") = report.attempts
  feedbacks :
    dialogues.flatten.countP (Exchange.isTo s.decisionUrl "/update-gateway-score")
      = report.attempts

private theorem reports_of_conducts {s : Settings} {roster : Roster} {trialRun : Trial.Run}
    {dialogues : List (List Exchange)} (h : s.Conducts roster trialRun dialogues)
    (generatedAt : Instant) (narrative : Option String) :
    Reports s trialRun dialogues { trialRun.ledger.report generatedAt with narrative } where
  counts := ⟨generatedAt, narrative, rfl⟩
  total := by
    rw [← h.processed, ← trialRun.length_ledger]
    rfl
  decisions := by
    have hone : List.Forall₂ (fun exchanges step =>
        exchanges.countP (Exchange.isTo s.decisionUrl "/decide-gateway")
          = (some step.outcome).toList.length) dialogues trialRun.steps :=
      h.dialogue.imp fun _ _ hdialogue => hdialogue.countP_eq.1
    have hcount := Trial.countP_flatten hone
    have hsteps : (fun step : Trial.Step => some step.outcome) = some ∘ (·.outcome) := rfl
    rw [← h.processed, hcount, hsteps, List.filterMap_eq_map, List.length_map,
      Trial.Run.processed]
  payments := Trial.countP_flatten (h.dialogue.imp fun _ _ hdialogue => hdialogue.countP_eq.2.1)
  feedbacks :=
    Trial.countP_flatten (h.dialogue.imp fun _ _ hdialogue => hdialogue.countP_eq.2.2)

/-! ### The program -/

section Program

variable {σ : Type} {host : Host (StateM σ)} {environment : Lookup} {state : σ}
  {session : Session}

/-- The run of a `session` within the program, with the exchanges that it makes. -/
def sessionRun (session : Session) (s : Settings) (host : Host (StateM σ)) (state : σ) :
    (Session.Ending × List Exchange) × σ :=
  session.run (s.services host.logged) (s.directory host.logged) (host.entropy state).1 []
    (host.entropy state).2

/-- The log does not change how a `session` ends. -/
private theorem sessionRun_fst (session : Session) (s : Settings) (host : Host (StateM σ))
    (state : σ) :
    (sessionRun session s host state).1.1
      = (session.run (s.services host) (s.directory host) (host.entropy state).1
        (host.entropy state).2).1 :=
  (session.run_coupled (Settings.services_coupled host.logged_forgetting s)
    (Settings.resolve_coupled host.logged_forgetting s) (host.entropy state).1 []
    (host.entropy state).2).1

/-- The program fails if there is no session: `Session.ofSettings?` has a `cause` to refuse it. -/
theorem watch_of_rejected {cause : ConfigurationFault}
    (hsession : Session.ofSettings? (.ofLookup environment) = .error cause) :
    (watch host environment state).1 = .failure cause.fault := by
  unfold watch run perform
  simp only [hsession]
  rfl

/-- What the program does from the end of its `session` on. -/
private theorem watch_eq (hsession : Session.ofSettings? (.ofLookup environment) = .ok session) :
    let ending := sessionRun session (.ofLookup environment) host state
    watch host environment state
      = ((match ending.1.1.result with
          | .error fault => pure (.failure fault)
          | .ok trialRun => do
            let (report, _) ← trialRun.ledger.reportWith (← host.logged.now)
              (Settings.summarizer (.ofLookup environment) host.logged)
            return .success (report.render (Settings.ofLookup environment).format) :
          StateT (List Exchange) (StateM σ) Exit) ending.1.2 ending.2).1 := by
  unfold watch run perform
  simp only [hsession]
  rfl

/-- The program fails with the `fault` of its `session`. -/
private theorem watch_of_error
    (hsession : Session.ofSettings? (.ofLookup environment) = .ok session) {fault : Fault}
    (hresult : (sessionRun session (.ofLookup environment) host state).1.1.result = .error fault) :
    (watch host environment state).1 = .failure fault := by
  rw [watch_eq hsession, hresult]
  rfl

/-- If its `session` succeeds, the program prints the report on `trialRun`, whatever is answered
when a summary is asked for. -/
private theorem watch_of_ok (hsession : Session.ofSettings? (.ofLookup environment) = .ok session)
    {trialRun : Trial.Run}
    (hresult : (sessionRun session (.ofLookup environment) host state).1.1.result
      = .ok trialRun) :
    let settings := Settings.ofLookup environment
    ∃ (report : Report) (generatedAt : Instant) (narrative : Option String)
      (summary : List Exchange),
      report = { trialRun.ledger.report generatedAt with narrative } ∧
      summary.map (·.request) = settings.summaryRequests trialRun.ledger.records ∧
      (∀ e ∈ summary, e.Attempted) ∧
      watch host environment state = (.success (report.render settings.format),
        (sessionRun session settings host state).1.2 ++ sent summary) := by
  intro settings
  rw [watch_eq hsession, hresult]
  generalize sessionRun session (.ofLookup environment) host state = ending
  have hnow : host.logged.now ending.1.2 ending.2
      = (((host.now ending.2).1, ending.1.2), (host.now ending.2).2) := rfl
  obtain ⟨summary, hsummary, hattempted, hreported⟩ := settings.reportWith_logged host
    trialRun.ledger (host.now ending.2).1 ending.1.2 (host.now ending.2).2
  obtain ⟨narrative, hreport⟩ := trialRun.ledger.exists_narrative (host.now ending.2).1
    (settings.summarizer host) (host.now ending.2).2
  refine ⟨_, _, narrative, summary, hreport, hsummary, hattempted, ?_⟩
  simp only [Services.bind_apply, hnow]
  rw [hreported]
  rfl

/-- A `session` fails for want of a connector, which is the `cause` that its directory gives. -/
private theorem sessionRun_of_unresolved (hidle : session.state = .idle) {s : Settings}
    {cause : DirectoryFault}
    (hresolve : ((s.directory host).resolve (host.entropy state).2).1.1 = .error cause) :
    (sessionRun session s host state).1.1.result = .error cause.fault := by
  obtain ⟨listing, -, -, hresolved⟩ := s.resolve_logged host [] (host.entropy state).2
  unfold sessionRun Session.run
  rw [hidle]
  simp only [Services.bind_apply, hresolved, hresolve, Services.pure_apply]

/-- With a `roster` a session makes all its attempts, whatever the servers answer. -/
private theorem sessionRun_of_resolved {s : Settings}
    (hsession : Session.ofSettings? s = .ok session)
    (hquiet : ∀ state, (host.isCancelled state).1 = false) {roster : Roster}
    (hresolve : ((s.directory host).resolve (host.entropy state).2).1.1 = .ok roster) :
    ∃ trialRun listing dialogues,
      (sessionRun session s host state).1.1.result = .ok trialRun ∧
      (sessionRun session s host state).1.2 = sent (listing ++ dialogues.flatten) ∧
      listing.map (·.request) = s.listingRequests ∧ (∀ e ∈ listing, e.Attempted) ∧
      s.Conducts roster trialRun dialogues := by
  obtain ⟨htrial, hidle⟩ := Session.ofSettings?_eq_ok hsession
  obtain ⟨listing, hlisting, hattempted, hresolved⟩ :=
    s.resolve_logged host [] (host.entropy state).2
  obtain ⟨dialogues, hconducts, hsent⟩ := Settings.exists_run_logged
    (Trial.follows_of_ofSettings? htrial) hquiet roster (host.entropy state).1 (sent listing)
    ((s.directory host).resolve (host.entropy state).2).2
  refine ⟨_, listing, dialogues, ?_, ?_, hlisting, hattempted, hconducts⟩
  all_goals
    unfold sessionRun Session.run
    rw [hidle]
    simp only [Services.bind_apply, hresolved, hresolve, Services.pure_apply, List.nil_append]
  · rfl
  · rw [sent_append]
    exact hsent

end Program

/-- The program has made all attempts of the `settings` with the `roster`, and has printed the
`report` on them. -/
structure Completes {σ : Type} (settings : Settings) (roster : Roster) (host : Host (StateM σ))
    (environment : Lookup) (state : σ) (report : Report) : Prop where
  /-- The `report` is printed in the format of the `settings`. -/
  prints : (run host environment state).1 = .success (report.render settings.format)
  exists_run : ∃ (session : Session) (trialRun : Trial.Run) (listing summary : List Exchange)
    (dialogues : List (List Exchange)),
    Session.ofSettings? settings = .ok session ∧
    (session.run (settings.services host) (settings.directory host) (host.entropy state).1
      (host.entropy state).2).1.result = .ok trialRun ∧
    settings.Conducts roster trialRun dialogues ∧ Reports settings trialRun dialogues report ∧
    listing.map (·.request) = settings.listingRequests ∧
    summary.map (·.request) = settings.summaryRequests trialRun.ledger.records ∧
    (∀ e ∈ listing ++ dialogues.flatten ++ summary, e.Attempted) ∧
    (watch host environment state).2 = sent (listing ++ dialogues.flatten ++ summary)

section Cases

variable {σ : Type} {host : Host (StateM σ)} {environment : Lookup} {state : σ}

/-- The program fails for settings that cannot be used and for want of a connector. -/
private theorem exists_failure
    (h : (∃ fault, (Settings.ofLookup environment).validate = .error fault) ∨
      4294967295 < (Settings.ofLookup environment).total ∨
        ∃ cause, (((Settings.ofLookup environment).directory host).resolve
          (host.entropy state).2).1.1 = .error cause) :
    ∃ fault, (run host environment state).1 = .failure fault := by
  rw [← watch_fst]
  cases hsession : Session.ofSettings? (.ofLookup environment) with
  | error cause => exact ⟨cause.fault, watch_of_rejected hsession⟩
  | ok session =>
    obtain ⟨hvalid, htotal⟩ := Session.exists_ofSettings?_iff.mp ⟨session, hsession⟩
    rcases h with ⟨fault, hfault⟩ | hmany | ⟨cause, hcause⟩
    · cases hvalid.symm.trans hfault
    · exact absurd hmany (Int.not_lt.mpr htotal)
    · obtain ⟨-, hidle⟩ := Session.ofSettings?_eq_ok hsession
      exact ⟨cause.fault, watch_of_error hsession (sessionRun_of_unresolved hidle hcause)⟩

/-- In all other cases it prints the report on all attempts. -/
private theorem exists_completes (hquiet : ∀ state, (host.isCancelled state).1 = false)
    (hvalid : (Settings.ofLookup environment).validate = .ok ())
    (htotal : (Settings.ofLookup environment).total ≤ 4294967295) {roster : Roster}
    (hresolve : (((Settings.ofLookup environment).directory host).resolve
      (host.entropy state).2).1.1 = .ok roster) :
    ∃ report, Completes (.ofLookup environment) roster host environment state report := by
  obtain ⟨session, hsession⟩ := Session.exists_ofSettings?_iff.mpr ⟨hvalid, htotal⟩
  obtain ⟨trialRun, listing, dialogues, hresult, hlog, hlisting, hlisted, hconducts⟩ :=
    sessionRun_of_resolved hsession hquiet hresolve
  obtain ⟨report, generatedAt, narrative, summary, rfl, hsummary, hsummarized, hwatch⟩ :=
    watch_of_ok hsession hresult
  refine ⟨_, ?_, session, trialRun, listing, summary, dialogues, hsession, ?_, hconducts,
    reports_of_conducts hconducts generatedAt narrative, hlisting, hsummary, fun e he => ?_, ?_⟩
  · rw [← watch_fst, hwatch]
  · rw [← sessionRun_fst]
    exact hresult
  · rcases List.mem_append.mp he with he | he
    · rcases List.mem_append.mp he with he | he
      · exact hlisted e he
      · exact hconducts.attempted e he
    · exact hsummarized e he
  · rw [hwatch, hlog, sent_append (listing ++ dialogues.flatten)]

end Cases

/-- **No answer makes the program fail.** It fails exactly for settings that `Settings.validate`
rejects, for too many attempts, and for want of a connector. If it does not, and nobody asks it to
stop, it `Completes`: it makes all its attempts and prints the report on them, whatever the servers
answer to each request. -/
theorem failure_iff_and_completes {σ : Type} (host : Host (StateM σ))
    (hquiet : ∀ state, (host.isCancelled state).1 = false) (environment : Lookup) (state : σ) :
    let settings := Settings.ofLookup environment
    let resolved := ((settings.directory host).resolve (host.entropy state).2).1.1
    ((∃ fault, (run host environment state).1 = .failure fault) ↔
      (∃ fault, settings.validate = .error fault) ∨ 4294967295 < settings.total ∨
        ∃ cause, resolved = .error cause) ∧
    ((¬∃ fault, (run host environment state).1 = .failure fault) →
      ∃ roster report, resolved = .ok roster ∧
        Completes settings roster host environment state report) := by
  intro settings resolved
  by_cases hbad : (∃ fault, settings.validate = .error fault) ∨ 4294967295 < settings.total ∨
      ∃ cause, resolved = .error cause
  · have hfails := exists_failure hbad
    exact ⟨⟨fun _ => hbad, fun _ => hfails⟩, fun hnot => absurd hfails hnot⟩
  · obtain ⟨hvalid, htotal, roster, hroster⟩ :
        settings.validate = .ok () ∧ settings.total ≤ 4294967295 ∧
          ∃ roster, resolved = .ok roster := by
      rw [not_or, not_or] at hbad
      obtain ⟨hvalid, htotal, hresolved⟩ := hbad
      refine ⟨?_, Int.not_lt.mp htotal, ?_⟩
      · cases hcheck : settings.validate with
        | error fault => exact absurd ⟨fault, hcheck⟩ hvalid
        | ok _ => rfl
      · cases hroster : resolved with
        | error cause => exact absurd ⟨cause, hroster⟩ hresolved
        | ok roster => exact ⟨roster, rfl⟩
    obtain ⟨report, hcompletes⟩ := exists_completes hquiet hvalid htotal hroster
    refine ⟨⟨?_, fun h => absurd h hbad⟩, fun _ => ⟨roster, report, hroster, hcompletes⟩⟩
    rintro ⟨fault, hfault⟩
    cases hcompletes.prints.symm.trans hfault

end CommandLine

/-! ### A small program -/

/-- An environment with four attempts and one connector. -/
def Lookup.four : Lookup := fun name =>
  [("SIM_TOTAL_PAYMENTS", "4"), ("SIM_CONNECTORS", "a=1")].lookup name

/-- Surroundings without any server. -/
def Host.deserted : Host (StateM Nat) where
  network := ⟨fun _ asked => (.failed, asked + 1)⟩
  token := pure ""
  wait _ := pure ()
  isCancelled := pure false
  now := pure ⟨0, 0⟩
  entropy := pure (.ofSeed 0)

/-- Without any server the program makes its four attempts and prints the report on them. -/
theorem CommandLine.failure_iff_and_completes_deserted :
    ∃ report : Report, (run .deserted .four 0).1 = .success (report.render .text) ∧
      report.attempts + report.skipped = 4 := by
  have hsettings : (Settings.ofLookup .four).fault? = none ∧
      (Settings.ofLookup .four).total = 4 ∧ (Settings.ofLookup .four).format = .text := by
    decide +kernel
  obtain ⟨hfault, htotal, hformat⟩ := hsettings
  have hresolve : (((Settings.ofLookup .four).directory .deserted).resolve
      (Host.deserted.entropy 0).2).1.1 = .ok (.ofList [("a", "1")]) := by
    decide +kernel
  have hvalid : (Settings.ofLookup .four).validate = .ok () := by
    rw [Settings.validate, hfault]
  obtain ⟨hiff, hcompletes⟩ := failure_iff_and_completes .deserted (fun _ => rfl) .four 0
  have hsucceeds : ¬∃ fault, (run .deserted .four 0).1 = .failure fault := by
    rw [hiff, hvalid, htotal, hresolve]
    rintro (⟨_, h⟩ | h | ⟨_, h⟩)
    · cases h
    · omega
    · cases h
  obtain ⟨roster, report, -, hprints, _, _, _, _, _, -, -, -, hreports, -⟩ := hcompletes hsucceeds
  rw [hformat] at hprints
  have hcount := hreports.total
  rw [htotal] at hcount
  exact ⟨report, hprints, by omega⟩

end RouterTrial
