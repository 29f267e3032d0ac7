import RouterTrial.Proofs.CommandLine
import RouterTrial.Proofs.Trial.Course

/-!
# Payments of the stand-in

A report has the number of payments that the stand-in made, counted by the connector that the
records say has processed them. A payment of the stand-in is always among them. But an endpoint may
give any name for the connector that it used, and a directory may have a connector of any name, so
a payment that an endpoint answered can carry the name of the stand-in too (`Mistaken`), and then it
is counted as well. The number is the number of payments of the stand-in and of those
(`Session.exists_simulated_iff`).
-/

namespace RouterTrial

/-! ### Executions -/

/-- The payment of an entry and its answer, if it is one. -/
def Entry.execution? : Entry → Option (PaymentOrder × PaymentAnswer)
  | decided _ _ => none
  | executed order answer => some (order, answer)
  | reported _ _ => none

/-- The payments of `t` with their answers, in order. -/
def Transcript.executions (t : Transcript) : List (PaymentOrder × PaymentAnswer) :=
  t.filterMap Entry.execution?

/-- The payment was answered by an endpoint, and the answer carries the name of the stand-in: by
itself, or because it has no name of its own and the payment went to a connector of that name. The
`execution` is the payment with its answer. -/
def Mistaken (execution : PaymentOrder × PaymentAnswer) : Prop :=
  execution.2.simulated = false ∧
    (execution.2.connector = some "simulated_connector" ∨
      (execution.2.connector = none ∨ execution.2.connector = some "") ∧
        execution.1.connector = "simulated_connector")

instance : DecidablePred Mistaken := fun _ => inferInstanceAs (Decidable (_ ∧ _))

/-- The connector that the payment of `execution` is put down under. -/
def processedBy (execution : PaymentOrder × PaymentAnswer) : String :=
  execution.2.processedBy execution.1.connector

theorem processedBy_of_simulated {execution : PaymentOrder × PaymentAnswer}
    (h : execution.2.simulated = true) : processedBy execution = "simulated_connector" := by
  rw [processedBy, PaymentAnswer.processedBy, if_pos h]
  rfl

private theorem processedBy_eq_iff_mistaken {execution : PaymentOrder × PaymentAnswer}
    (h : execution.2.simulated = false) :
    processedBy execution = "simulated_connector" ↔ Mistaken execution := by
  rw [processedBy, PaymentAnswer.processedBy, h, if_neg Bool.false_ne_true, Mistaken, h]
  rcases execution.2.connector with _ | name
  · simp
  · by_cases hempty : name = "" <;> simp [Option.filter, hempty]

/-- The payments that are put down under the stand-in are its own and those that are `Mistaken` for
its own. -/
private theorem countP_processedBy (executions : List (PaymentOrder × PaymentAnswer)) :
    executions.countP (processedBy · = "simulated_connector")
      = executions.countP (·.2.simulated) + executions.countP Mistaken := by
  induction executions with
  | nil => rfl
  | cons execution executions ih =>
    rw [List.countP_cons, List.countP_cons, List.countP_cons, ih]
    cases hsimulated : execution.2.simulated with
    | true =>
      have hmistaken : ¬Mistaken execution := fun h => by
        cases h.1.symm.trans hsimulated
      simp only [processedBy_of_simulated hsimulated, hmistaken, decide_true, decide_false,
        if_true, Bool.false_eq_true, if_false]
      omega
    | false =>
      simp only [processedBy_eq_iff_mistaken hsimulated, Bool.false_eq_true, if_false]
      omega

/-! ### The records of a run -/

section Runs

variable {G : Type} [WordSource G] {t : Trial} {roster : Roster} {index : Nat} {g g' : G}

/-- An attempt has a payment exactly if it comes to a record, which is under the connector that the
payment is put down under (`processedBy`). -/
theorem Trial.Attempted.map_processedBy {entries : Transcript} {outcome : Outcome}
    (h : Attempted t roster index g entries outcome g') :
    entries.filterMap (fun entry => entry.execution?.map processedBy)
      = ((Run.record? outcome).map (·.processedBy)).toList := by
  cases h <;> rfl

/-- The records of the `run` are under the connectors that its payments are put down under. -/
theorem Trial.Course.map_processedBy {run : Trial.Run} {transcript : Transcript}
    (h : Course (t.Attempted roster) index g run.steps transcript g') :
    transcript.executions.map processedBy = run.ledger.records.map (·.processedBy) := by
  have hpicked := h.filterMap_eq (fun entry => entry.execution?.map processedBy)
    (fun outcome => (Run.record? outcome).map (·.processedBy)) Attempted.map_processedBy
  rw [Transcript.executions, Run.ledger, List.map_filterMap, List.map_filterMap]
  exact hpicked

/-- A report on the `run` counts the payments that are put down under the stand-in. -/
theorem Trial.Course.simulated_reportWith {run : Trial.Run} {transcript : Transcript}
    (h : Course (t.Attempted roster) index g run.steps transcript g') {σ : Type}
    (generatedAt : Instant) (summarizer : Option (Summarizer (StateM σ))) (s : σ) :
    (run.ledger.reportWith generatedAt summarizer s).1.1.simulated
      = transcript.executions.countP (·.2.simulated) + transcript.executions.countP Mistaken := by
  obtain ⟨narrative, hreport⟩ := run.ledger.exists_narrative generatedAt summarizer s
  have hcount : run.ledger.records.countP (·.isSimulated)
      = (run.ledger.records.map (·.processedBy)).countP (· = "simulated_connector") := by
    rw [List.countP_map]
    rfl
  calc (run.ledger.reportWith generatedAt summarizer s).1.1.simulated
      = run.ledger.records.countP (·.isSimulated) := by
        rw [hreport]
        rfl
    _ = transcript.executions.countP (processedBy · = "simulated_connector") := by
        rw [hcount, ← h.map_processedBy, List.countP_map]
        rfl
    _ = _ := countP_processedBy _

end Runs

/-- **The stand-in in reports.** The report on a run that a session makes, whatever a summarizer
writes for it, has the number of the payments that the stand-in made and of those that are
`Mistaken` for them. So it is the number of payments of the stand-in exactly if none is mistaken for
one. -/
theorem Session.exists_simulated_iff {settings : Settings} {session : Session}
    (hsession : Session.ofSettings? settings = .ok session) {σ : Type}
    (services : Services (StateM σ)) {directory : Directory (StateM σ)} (entropy : Keystream)
    {s : σ} {roster : Roster} (hresolve : (directory.resolve s).1.1 = .ok roster) :
    ∃ run : Trial.Run, (session.run services directory entropy s).1.result = .ok run ∧
      ∀ (generatedAt : Instant) (summarizer : Option (Summarizer (StateM σ))) (s' : σ),
        let executions := (session.watch services directory entropy s).2.executions
        let report := (run.ledger.reportWith generatedAt summarizer s').1.1
        report.simulated = executions.countP (·.2.simulated) + executions.countP Mistaken ∧
          (report.simulated = executions.countP (·.2.simulated) ↔
            ∀ execution ∈ executions, ¬Mistaken execution) := by
  obtain ⟨-, hidle⟩ := Session.ofSettings?_eq_ok hsession
  obtain ⟨run, g, hresult, hcourse, -, -⟩ :=
    Session.course_of_watch services entropy hidle hresolve
  refine ⟨run, ?_, fun generatedAt summarizer s' => ?_⟩
  · rw [← Session.watch_fst]
    exact hresult
  · have hcount := hcourse.simulated_reportWith generatedAt summarizer s'
    refine ⟨hcount, ?_⟩
    rw [hcount, Nat.add_eq_left, List.countP_eq_zero]
    simp only [decide_eq_true_eq]

/-- A run with two payments that the stand-in made, and none that is mistaken for one. -/
theorem Session.exists_simulated_iff_declining :
    ∃ (session : Session) (run : Trial.Run), Session.ofSettings? .four = .ok session ∧
      (session.run (.declining 2 "a") .two (.ofSeed 0) 0).1.result = .ok run ∧
      (run.ledger.reportWith ⟨0, 0⟩ (none : Option (Summarizer (StateM Nat))) 0).1.1.simulated
        = 2 := by
  obtain ⟨session, hsession⟩ : ∃ session, Session.ofSettings? .four = .ok session := ⟨_, rfl⟩
  have hresolve : (Directory.two.resolve 0).1.1 = .ok (.ofList [("a", "1"), ("b", "2")]) := rfl
  obtain ⟨run, hrun, hreports⟩ :=
    Session.exists_simulated_iff hsession (.declining 2 "a") (.ofSeed 0) hresolve
  refine ⟨session, run, hsession, hrun, ?_⟩
  rw [(hreports ⟨0, 0⟩ none 0).1]
  obtain rfl := Except.ok.inj hsession
  decide +kernel

/-- Services that charge all payments and say that the stand-in has processed them. -/
def Services.echoing : Services (StateM Nat) :=
  .steady 4 ⟨some "a", .empty, .unknown⟩
    ⟨none, "charged", some "simulated_connector", none, none, false⟩ (.ok ⟨200, ""⟩)

/-- Without a single payment of the stand-in, a report can say that it made all four. -/
theorem Session.exists_simulated_ne :
    ∃ (session : Session) (run : Trial.Run), Session.ofSettings? .four = .ok session ∧
      (session.run .echoing .two (.ofSeed 0) 0).1.result = .ok run ∧
      (session.watch .echoing .two (.ofSeed 0) 0).2.executions.countP (·.2.simulated) = 0 ∧
      (run.ledger.report ⟨0, 0⟩).simulated = 4 := by
  refine ⟨_, _, rfl, rfl, ?_, ?_⟩
  · decide +kernel
  · decide +kernel

end RouterTrial
