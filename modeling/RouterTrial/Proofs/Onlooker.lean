import RouterTrial.CommandLine
import RouterTrial.Proofs.Trial.Course

/-!
# What an onlooker is shown

An onlooker who is shown errors only (`Log.shown .error`) is told nothing of a program that prints
its report, whatever its services, its source of connectors and its summarizer have answered: what
goes wrong with them is at most a warning. The one error is the want of a connector, and it is the
fault that the program fails with as well (`CommandLine.shown_perform`).
-/

namespace RouterTrial

/-! ### Logs without errors -/

namespace Log

variable {log log' : Log}

/-- No line of `log` is an error. -/
def Mild (log : Log) : Prop := ∀ line ∈ log, line.level ≠ .error

/-- At the level of errors nothing is shown of a `Mild` log and something of any other. -/
theorem shown_error_eq_nil_iff : log.shown .error = [] ↔ log.Mild := by
  rw [shown, List.filter_eq_nil_iff]
  refine forall₂_congr fun line _ => ?_
  cases line.level <;> decide

@[simp]
theorem mild_nil : Mild [] := nofun

@[simp]
theorem mild_cons {line : LogLine} : Mild (line :: log) ↔ line.level ≠ .error ∧ log.Mild :=
  List.forall_mem_cons

@[simp]
theorem mild_append : Mild (log ++ log') ↔ log.Mild ∧ log'.Mild := List.forall_mem_append

theorem shown_append (level : Level) (log log' : Log) :
    shown level (log ++ log') = log.shown level ++ log'.shown level := List.filter_append _ _

end Log

variable {σ : Type}

/-! ### Attempts -/

namespace Trial

open Log (Mild)

private theorem mild_scoreLog (id : AttemptId) (d : Decision) : Mild (scoreLog id d) := by
  unfold scoreLog
  split <;> simp

private theorem mild_skipLog (index : Nat) (id : AttemptId) (reason : SkipReason) :
    Mild (skipLog index id reason) := by
  cases reason <;> simp [skipLog]

private theorem mild_redrawLog (id : AttemptId) (connector : String) (card : Card)
    (deck : Option Deck) : Mild (redrawLog id connector card deck) := by
  cases deck <;> simp [redrawLog]

private theorem mild_feedbackLog (id : AttemptId) (connector : String)
    (acknowledged : Except Fault Acknowledgement) :
    Mild (feedbackLog id connector acknowledged) := by
  cases acknowledged <;> simp [feedbackLog]

private theorem mild_recordLog (index : Nat) (r : Record) : Mild (recordLog index r) := by
  simp [recordLog]

private theorem mild_planLog (t : Trial) (roster : Roster) : Mild (t.planLog roster) := by
  have hwindows : Mild (t.schedule.windows.map windowLine) := by
    intro line hline
    obtain ⟨w, -, rfl⟩ := List.mem_map.mp hline
    nofun
  have hrates : Mild (t.rateDecks.entries.map rateLine) := by
    intro line hline
    obtain ⟨entry, -, rfl⟩ := List.mem_map.mp hline
    nofun
  simp [planLog, hwindows, hrates]

variable {G : Type} [WordSource G]

/-- Whatever the `services` answer, an attempt logs no error. -/
theorem mild_attempt (t : Trial) (services : Services (StateM σ)) (roster : Roster) (index : Nat)
    (w : Window) (g : G) (s : σ) :
    Mild (t.attempt services roster index w g s).1.1.log := by
  unfold attempt
  rw [stateM_bind_apply]
  generalize services.decide _ s = answered
  obtain ⟨decision, s'⟩ := answered
  cases place roster decision with
  | skip reason => exact Log.mild_append.mpr ⟨mild_scoreLog _ _, mild_skipLog _ _ _⟩
  | pay connector account =>
    refine Log.mild_append.mpr ⟨Log.mild_append.mpr ⟨Log.mild_append.mpr ⟨?_, ?_⟩, ?_⟩, ?_⟩
    · exact mild_scoreLog _ _
    · exact mild_redrawLog _ _ _ _
    · exact mild_feedbackLog _ _ _
    · exact mild_recordLog _ _

private theorem mild_attempts (t : Trial) (services : Services (StateM σ)) (roster : Roster)
    (left index : Nat) (g : G) (s : σ) :
    ∀ step ∈ (t.attempts services roster left index g s).1.steps, step.log.Mild := by
  induction left generalizing index g s with
  | zero => exact List.forall_mem_nil _
  | succ left ih =>
    rw [attempts, stateM_bind_apply]
    split
    · exact List.forall_mem_nil _
    · cases t.schedule.window? index with
      | none => exact ih (index + 1) g _
      | some w =>
        refine List.forall_mem_cons.mpr ⟨?_, ih (index + 1) _ _⟩
        exact mild_attempt t services roster index w g _

private theorem Run.mild_log {r : Run} (h : ∀ step ∈ r.steps, step.log.Mild) : Mild r.log := by
  have hsteps : Mild (r.steps.flatMap (·.log)) := by
    intro line hline
    obtain ⟨step, hstep, hline⟩ := List.mem_flatMap.mp hline
    exact h step hstep line hline
  have hcancel : Mild r.cancelLog := by
    unfold cancelLog
    split <;> simp
  simp [Run.log, endLine, hsteps, hcancel]

/-- Whatever the `services` answer, a trial logs no error. -/
theorem mild_run (t : Trial) (services : Services (StateM σ)) (roster : Roster)
    (entropy : Keystream) (s : σ) : Mild (t.run services roster entropy s).1.2 := by
  unfold run
  rw [stateM_bind_apply, stateM_bind_apply]
  refine Log.mild_append.mpr ⟨mild_planLog t roster, Run.mild_log ?_⟩
  exact mild_attempts t services roster _ 1 _ _

end Trial

/-! ### Directories and reports -/

/-- Whatever the source of `d` answers, looking for connectors logs no error. -/
theorem Directory.mild_resolve (d : Directory (StateM σ)) (s : σ) :
    Log.Mild (d.resolve s).1.2 := by
  have hconclude : ∀ answer, Log.Mild (conclude d.profile answer).2 := by
    intro answer
    have hfailure : Log.Mild (failureLog answer) := by cases answer <;> simp [failureLog]
    simp only [conclude]
    split <;> simp [hfailure]
  unfold resolve
  cases d.fixed.isEmpty with
  | false => exact Log.mild_nil
  | true =>
    cases d.source with
    | none => exact Log.mild_nil
    | some ask => exact hconclude _

/-- Whatever the `summarizer` answers, making a report logs no error. -/
theorem Ledger.mild_reportWith (l : Ledger) (generatedAt : Instant)
    (summarizer : Option (Summarizer (StateM σ))) (s : σ) :
    Log.Mild (l.reportWith generatedAt summarizer s).1.2 := by
  have hnarrate : ∀ r answer, Log.Mild (narrate r answer).2 := by
    intro r answer
    cases answer <;> simp [narrate]
  cases summarizer with
  | none => exact Log.mild_nil
  | some summarize => exact hnarrate _ _

/-! ### Sessions and the program -/

/-- Of the run of an idle `session` an onlooker who is shown errors only is told the fault, and
nothing if there is none. -/
theorem Session.shown_log_run {session : Session} (hidle : session.state = .idle)
    (services : Services (StateM σ)) (directory : Directory (StateM σ)) (entropy : Keystream)
    (s : σ) :
    let ending := (session.run services directory entropy s).1
    (∃ run, ending.result = .ok run ∧ ending.log.shown .error = []) ∨
      ∃ cause : DirectoryFault, ending.result = .error cause.fault ∧
        ending.log.shown .error = [abortLine cause.fault] := by
  have hresolved := directory.mild_resolve s
  unfold run
  rw [hidle]
  simp only [stateM_bind_apply]
  generalize directory.resolve s = resolved at hresolved
  obtain ⟨⟨outcome, log⟩, s'⟩ := resolved
  cases outcome with
  | error cause =>
    refine .inr ⟨cause, rfl, ?_⟩
    change Log.shown .error (log ++ [abortLine cause.fault]) = [abortLine cause.fault]
    rw [Log.shown_append, Log.shown_error_eq_nil_iff.mpr hresolved]
    rfl
  | ok roster =>
    have hran := session.trial.mild_run services roster entropy s'
    exact .inl ⟨_, rfl, Log.shown_error_eq_nil_iff.mpr (Log.mild_append.mpr ⟨hresolved, hran⟩)⟩

namespace CommandLine

private theorem mild_closingLog (run : Trial.Run) (total : Nat) :
    Log.Mild (closingLog run total) := by
  unfold closingLog
  split <;> simp

/-- **Onlookers.** An onlooker who is shown errors only sees nothing behind the report, and before
it one line exactly if there is no connector: the `Session.abortLine` of the fault that the program
then fails with. -/
theorem shown_perform (host : Host (StateM σ)) (environment : Lookup) (s : σ) :
    let ending := (perform id host environment s).1
    ending.closing.shown .error = [] ∧
      ((ending.exit.code = 0 ∧ ending.log.shown .error = []) ∨
        (∃ cause : ConfigurationFault,
          ending.exit = .failure cause.fault ∧ ending.log.shown .error = []) ∨
        ∃ cause : DirectoryFault, ending.exit = .failure cause.fault ∧
          ending.log.shown .error = [Session.abortLine cause.fault]) := by
  unfold perform
  generalize Settings.ofLookup environment = settings
  cases hsession : Session.ofSettings? settings with
  | error cause => exact ⟨rfl, .inr (.inl ⟨cause, rfl, rfl⟩)⟩
  | ok session =>
    obtain ⟨-, hidle⟩ := Session.ofSettings?_eq_ok hsession
    have hshown := Session.shown_log_run hidle (settings.services host) (settings.directory host)
      (host.entropy s).1 (host.entropy s).2
    simp only [stateM_bind_apply]
    generalize session.run (settings.services host) (settings.directory host) (host.entropy s).1
      (host.entropy s).2 = ran at hshown ⊢
    obtain ⟨⟨result, session', log⟩, s'⟩ := ran
    rcases hshown with ⟨trialRun, hresult, hlog⟩ | ⟨cause, hresult, hlog⟩
    · obtain rfl : result = .ok trialRun := hresult
      have hreport := trialRun.ledger.mild_reportWith (host.now s').1 (settings.summarizer host)
        (host.now s').2
      refine ⟨Log.shown_error_eq_nil_iff.mpr (mild_closingLog _ _), .inl ⟨rfl, ?_⟩⟩
      exact Log.shown_error_eq_nil_iff.mpr
        (Log.mild_append.mpr ⟨Log.shown_error_eq_nil_iff.mp hlog, hreport⟩)
    · obtain rfl : result = .error cause.fault := hresult
      exact ⟨rfl, .inr (.inr ⟨cause, rfl, hlog⟩)⟩

end CommandLine

end RouterTrial
