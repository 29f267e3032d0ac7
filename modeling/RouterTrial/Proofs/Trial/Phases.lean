import RouterTrial.Proofs.CommandLine
import RouterTrial.Proofs.Report
import RouterTrial.Proofs.Trial.Accounts

/-!
# The phases of a report

A report and the schedule of its run agree phase by phase. The attempts that the report counts for a
phase and those that were skipped in it are together the attempts of the run that lie in the window
of the phase, so as many of the attempts of the window as the run came to (`Window.countP_range'`).
A run that is not cancelled has made all of them.

Records and skips are put down under the phase of the window of their attempt
(`Course.countP_phase`), the windows have different phases, and the entry of a phase in a report
counts its records (`Report.attemptsIn_eq`), so nothing is lost between the three.
-/

namespace RouterTrial

/-! ### Windows -/

/-- So many of the first `n` attempts lie in the window `w`. -/
private theorem Window.countP_range' (w : Window) (n : Nat) :
    (List.range' 1 n).countP w.contains = min n w.through - min n w.after := by
  induction n with
  | zero => rw [Nat.zero_min, Nat.zero_min, Nat.sub_self, List.range'_zero, List.countP_nil]
  | succ n ih =>
    rw [List.range'_concat, List.countP_append, ih, List.countP_singleton]
    -- the attempt that comes last is behind all that were counted
    by_cases hlast : w.contains (1 + 1 * n) = true
    · have := contains_iff.mp hlast
      rw [if_pos hlast]
      omega
    · have := mt contains_iff.mpr hlast
      rw [if_neg hlast]
      omega

namespace Schedule

/-- The windows `w` and `w'` of a schedule have different phases, or are the same. -/
private theorem windows_eq_of_phase {s : Schedule} {w w' : Window} (hw : w ∈ s.windows)
    (hw' : w' ∈ s.windows) (h : w.phase = w'.phase) : w = w' := by
  simp only [windows, List.mem_cons, List.not_mem_nil, or_false] at hw hw'
  rcases hw with rfl | rfl | rfl <;> rcases hw' with rfl | rfl | rfl <;> first | rfl | cases h

/-- The window `w` ends within the trial, and not before it starts. -/
private theorem bounds_of_mem_windows {s : Schedule} {w : Window} (h : w ∈ s.windows) :
    w.after ≤ w.through ∧ w.through ≤ s.total := by
  have hstart := s.failureStart_le_failureEnd
  have hend := s.failureEnd_le_total
  simp only [windows, List.mem_cons, List.not_mem_nil, or_false] at h
  rcases h with rfl | rfl | rfl
  · exact ⟨Nat.zero_le _, Nat.le_trans hstart hend⟩
  · exact ⟨hstart, hend⟩
  · exact ⟨hend, Nat.le_refl _⟩

/-- How many attempts of a trial with the schedule `s` belong to a phase. -/
def share (s : Schedule) : Phase → Nat
  | .baseline => s.total / 2
  | .forcedFailure => s.total / 4
  | .recovery => s.total - s.total / 2 - s.total / 4

/-- The phase `p` has a window with its `share` of the attempts. -/
theorem exists_window_of_phase (s : Schedule) (p : Phase) :
    ∃ w ∈ s.windows, w.phase = p ∧ w.length = s.share p := by
  cases p with
  | baseline => exact ⟨_, List.mem_cons_self, rfl, Nat.sub_zero _⟩
  | forcedFailure =>
    exact ⟨_, List.mem_cons_of_mem _ List.mem_cons_self, rfl, Nat.add_sub_cancel_left ..⟩
  | recovery =>
    exact ⟨_, List.mem_cons_of_mem _ (List.mem_cons_of_mem _ List.mem_cons_self), rfl,
      Nat.sub_add_eq ..⟩

end Schedule

/-! ### Reports -/

namespace Report

/-- The attempts that the report `r` counts for the phase `p`, none if it has no entry for it. -/
def attemptsIn (r : Report) (p : Phase) : Nat := ((r.perPhase.find? p).map (·.attempts)).getD 0

/-- The attempts of the phase `p` that the report `r` counts and those of `skips`. -/
def accountedIn (r : Report) (skips : List Skip) (p : Phase) : Nat :=
  r.attemptsIn p + skips.countP (·.phase = p)

/-- The report `r` counts the records of the phase `p`. -/
private theorem attemptsIn_eq {records : List Record} {r : Report} (h : r.Count records)
    (p : Phase) : r.attemptsIn p = records.countP (·.phase = p) := by
  rw [attemptsIn]
  cases hfind : r.perPhase.find? p with
  | none =>
    have hmissing : ¬∃ record ∈ records, record.phase = p := by
      rw [← h.perPhase.mem_keys, Table.mem_keys_iff, hfind]
      exact nofun
    refine (List.countP_eq_zero.mpr fun record hrecord hphase => ?_).symm
    exact hmissing ⟨record, hrecord, of_decide_eq_true hphase⟩
  | some counts =>
    rw [Option.map_some, Option.getD_some, (h.perPhase.right_of_find? hfind).attempts,
      List.countP_eq_length_filter]

/-- The report `r` agrees with the `schedule` on what the `run` came to. -/
structure AgreesWith (schedule : Schedule) (run : Trial.Run) (r : Report) : Prop where
  total : r.attempts + r.skipped = run.processed
  phases : ∀ w ∈ schedule.windows, r.accountedIn run.ledger.skips w.phase
    = min run.processed w.through - min run.processed w.after
  /-- A run that is not cancelled has made all attempts of each window. -/
  uncancelled : run.cancelled = false → run.processed = schedule.total ∧
    ∀ w ∈ schedule.windows, r.accountedIn run.ledger.skips w.phase = w.length

end Report

/-- What a `summarizer` writes changes nothing in the numbers of a report. -/
theorem Ledger.count_reportWith {σ : Type} (l : Ledger) (generatedAt : Instant)
    (summarizer : Option (Summarizer (StateM σ))) (s : σ) :
    let report := (l.reportWith generatedAt summarizer s).1.1
    report.Count l.records ∧ report.skipped = l.skips.length ∧
      report.topErrors = topErrors (errorMessages l.records) := by
  obtain ⟨narrative, hreport⟩ := l.exists_narrative generatedAt summarizer s
  have h := Report.count_ofRecords l.records l.skips.length generatedAt
  rw [hreport]
  exact ⟨⟨h.attempts, h.successes, h.failures, h.exploitation, h.exploration, h.simulated,
    h.byStatus, h.perConnector, h.perPhase⟩, rfl, rfl⟩

/-! ### Runs -/

namespace Trial

/-- What is put down under the phase `p` are the steps of the phase. -/
theorem Run.countP_ledger (r : Run) (p : Phase) :
    r.ledger.records.countP (·.phase = p) + r.ledger.skips.countP (·.phase = p)
      = r.steps.countP (·.outcome.phase = p) := by
  simp only [ledger]
  induction r.steps with
  | nil => rfl
  | cons step steps ih =>
    rw [List.filterMap_cons, List.filterMap_cons, List.countP_cons, ← ih]
    cases step.outcome with
    | recorded record =>
      change (record :: _).countP _ + _ = _ + if decide (record.phase = p) then 1 else 0
      rw [List.countP_cons, Nat.add_right_comm]
      rfl
    | skipped skip =>
      change _ + (skip :: _).countP _ = _ + if decide (skip.phase = p) then 1 else 0
      rw [List.countP_cons, Nat.add_assoc]
      rfl

section Course

variable {G : Type} [WordSource G] {t : Trial} {roster : Roster} {index : Nat} {g g' : G}
  {transcript : Transcript}

/-- An attempt is put down under the phase of the window `w` exactly if it lies in the window. -/
theorem Attempted.phase_iff {entries : Transcript} {outcome : Outcome}
    (h : Attempted t roster index g entries outcome g') {w : Window} (hw : w ∈ t.schedule.windows) :
    outcome.phase = w.phase ↔ w.contains index = true := by
  obtain ⟨-, w', hwindow, hphase⟩ := h.id_phase
  obtain ⟨hw', hcontains⟩ := Schedule.window?_eq_some_iff.mp hwindow
  rw [hphase]
  constructor
  · intro heq
    rw [← Schedule.windows_eq_of_phase hw' hw heq]
    exact hcontains
  · intro hin
    rw [Schedule.windows_unique hw' hw hcontains hin]

/-- The steps of a phase are the attempts of its window `w` that the run came to. -/
theorem Course.countP_phase {steps : List Step}
    (h : Course (t.Attempted roster) 1 g steps transcript g') {w : Window}
    (hw : w ∈ t.schedule.windows) :
    steps.countP (·.outcome.phase = w.phase)
      = min steps.length w.through - min steps.length w.after := by
  have hphase : ∀ step ∈ steps,
      (decide (step.outcome.phase = w.phase) = true ↔ w.contains step.index = true) := by
    intro step hstep
    obtain ⟨entries, g₁, g₂, hmade⟩ := h.exists_made hstep
    rw [decide_eq_true_iff]
    exact hmade.phase_iff hw
  calc steps.countP (·.outcome.phase = w.phase)
      = steps.countP (w.contains ·.index) := List.countP_congr hphase
    _ = (steps.map (·.index)).countP w.contains := by rw [List.countP_map]; rfl
    _ = (List.range' 1 steps.length).countP w.contains := by rw [h.map_index]
    _ = min steps.length w.through - min steps.length w.after := w.countP_range' steps.length

/-- A report that counts the records and skips of a `run` agrees with the schedule. -/
theorem Course.agreesWith {run : Run} (h : Course (t.Attempted roster) 1 g run.steps transcript g')
    (hle : run.processed ≤ t.schedule.total)
    (hcut : run.cancelled = true ↔ run.processed < t.schedule.total) {r : Report}
    (hcount : r.Count run.ledger.records) (hskipped : r.skipped = run.ledger.skips.length) :
    r.AgreesWith t.schedule run := by
  have hphases : ∀ w ∈ t.schedule.windows, r.accountedIn run.ledger.skips w.phase
      = min run.processed w.through - min run.processed w.after := by
    intro w hw
    rw [Report.accountedIn, Report.attemptsIn_eq hcount, run.countP_ledger, h.countP_phase hw,
      Run.processed]
  refine ⟨?_, hphases, fun hcancelled => ?_⟩
  · rw [hcount.attempts, hskipped, run.length_ledger]
  · have hall : run.processed = t.schedule.total := by
      refine Nat.le_antisymm hle (Nat.not_lt.mp fun hlt => ?_)
      cases hcancelled.symm.trans (hcut.mpr hlt)
    refine ⟨hall, fun w hw => ?_⟩
    obtain ⟨hafter, hthrough⟩ := Schedule.bounds_of_mem_windows hw
    rw [hphases w hw, hall, Window.length, Nat.min_eq_right hthrough,
      Nat.min_eq_right (Nat.le_trans hafter hthrough)]

end Course

end Trial

/-! ### Sessions -/

/-- **Phases.** The report on a run that a session makes `AgreesWith` the schedule of its settings,
whatever the services answer, whenever the run is cancelled, and whatever a summarizer writes for
the report. Without a cancellation it accounts for half of the attempts as baseline, for a quarter
as forced failure, and for the rest as recovery. -/
theorem Session.exists_agreesWith {settings : Settings} {session : Session}
    (hsession : Session.ofSettings? settings = .ok session) {σ : Type}
    (services : Services (StateM σ)) {directory : Directory (StateM σ)} (entropy : Keystream)
    {s : σ} {roster : Roster} (hresolve : (directory.resolve s).1.1 = .ok roster) :
    ∃ run : Trial.Run, (session.run services directory entropy s).1.result = .ok run ∧
      ∀ (generatedAt : Instant) (summarizer : Option (Summarizer (StateM σ))) (s' : σ),
        let report := (run.ledger.reportWith generatedAt summarizer s').1.1
        let total := session.trial.schedule.total
        let accounted := report.accountedIn run.ledger.skips
        (total : Int) = settings.total ∧ report.AgreesWith session.trial.schedule run ∧
          (run.cancelled = false → accounted .baseline = total / 2 ∧
            accounted .forcedFailure = total / 4 ∧
            accounted .recovery = total - total / 2 - total / 4) := by
  obtain ⟨hfollows, run, g, hresult, hcourse, hle, hcut⟩ :=
    Session.course_of_run hsession services entropy hresolve
  refine ⟨run, hresult, fun generatedAt summarizer s' => ?_⟩
  intro report total accounted
  obtain ⟨hcount, hskipped, -⟩ := run.ledger.count_reportWith generatedAt summarizer s'
  have hagrees := hcourse.agreesWith hle hcut hcount hskipped
  refine ⟨hfollows.total_eq, hagrees, fun hcancelled => ?_⟩
  have hshare : ∀ p, accounted p = session.trial.schedule.share p := by
    intro p
    obtain ⟨w, hw, rfl, hlength⟩ := session.trial.schedule.exists_window_of_phase p
    rw [← hlength]
    exact (hagrees.uncancelled hcancelled).2 w hw
  exact ⟨hshare .baseline, hshare .forcedFailure, hshare .recovery⟩

/-- The report on a trial that is cancelled behind its forced failures accounts for one of them. -/
theorem Session.exists_agreesWith_of_cancelled :
    ∃ (session : Session) (run : Trial.Run), Session.ofSettings? .four = .ok session ∧
      (session.run (.declining 3 "a") .two (.ofSeed 0) 0).1.result = .ok run ∧
      run.processed = 3 ∧ (run.ledger.report ⟨0, 0⟩).AgreesWith session.trial.schedule run ∧
      (run.ledger.report ⟨0, 0⟩).accountedIn run.ledger.skips .forcedFailure = 1 := by
  obtain ⟨session, hsession⟩ : ∃ session, Session.ofSettings? .four = .ok session := ⟨_, rfl⟩
  have hresolve : (Directory.two.resolve 0).1.1 = .ok (.ofList [("a", "1"), ("b", "2")]) := rfl
  have hrest : (Session.ofSettings? .four).toOption.map (fun session =>
      (decide (⟨.forcedFailure, 2, 3, 0⟩ ∈ session.trial.schedule.windows),
        ((session.run (.declining 3 "a") .two (.ofSeed 0) 0).1.result.map (·.processed)).toOption))
      = some (true, some 3) := by
    decide +kernel
  obtain ⟨run, hrun, hreports⟩ :=
    Session.exists_agreesWith hsession (.declining 3 "a") (.ofSeed 0) hresolve
  obtain ⟨-, hagrees, -⟩ := hreports ⟨0, 0⟩ none 0
  rw [hsession] at hrest
  obtain ⟨hwindow, hprocessed⟩ := Prod.mk.inj (Option.some.inj hrest)
  rw [hrun] at hprocessed
  replace hprocessed : run.processed = 3 := Option.some.inj hprocessed
  refine ⟨session, run, hsession, hrun, hprocessed, hagrees, ?_⟩
  have hforced := hagrees.phases _ (of_decide_eq_true hwindow)
  rw [hprocessed] at hforced
  exact hforced

end RouterTrial
