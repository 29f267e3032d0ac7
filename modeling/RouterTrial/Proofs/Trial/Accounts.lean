import Mathlib.Data.List.Nodup
import RouterTrial.Proofs.Attempt
import RouterTrial.Proofs.Trial.Course
import RouterTrial.Proofs.Trial.Decks

/-!
# The accounts of a run

A run keeps account of all its attempts: each of them is either recorded or skipped, once, in the
order of the attempts and under the phase that it belongs to, and nothing else is put down. The run
ends with its last attempt unless it was cancelled before.
-/

namespace RouterTrial

namespace Trial

/-! ### Records and skips -/

/-- The numbers of those `steps` from whose outcome `pick` can take something. -/
def indicesOf {α : Type} (pick : Outcome → Option α) (steps : List Step) : List Nat :=
  (steps.filter fun step => (pick step.outcome).isSome).map (·.index)

/-- What `pick` takes out of an outcome has the identifier and the phase of the outcome. -/
structure Picks {α : Type} (pick : Outcome → Option α) (idOf : α → AttemptId)
    (phaseOf : α → Phase) : Prop where
  id : ∀ {outcome a}, pick outcome = some a → idOf a = outcome.id
  phase : ∀ {outcome a}, pick outcome = some a → phaseOf a = outcome.phase

/-- What `pick` finds in no outcome but the one that `make` makes of it has all of that outcome. -/
private theorem picks_of_eq {α : Type} {pick : Outcome → Option α} {make : α → Outcome}
    (h : ∀ {outcome a}, pick outcome = some a → outcome = make a) :
    Picks pick (fun a => (make a).id) fun a => (make a).phase where
  id hpick := congrArg Outcome.id (h hpick).symm
  phase hpick := congrArg Outcome.phase (h hpick).symm

theorem picks_record? : Picks Run.record? (·.id) (·.phase) :=
  picks_of_eq Run.record?_eq_some_iff.mp

theorem picks_skip? : Picks Run.skip? (·.id) (·.phase) := picks_of_eq Run.skip?_eq_some_iff.mp

/-- The identifiers of what `pick` takes out of `steps` are those of the steps that it is taken out
of. -/
private theorem Picks.map_id_filterMap {α : Type} {pick : Outcome → Option α} {idOf : α → AttemptId}
    {phaseOf : α → Phase} (hpick : Picks pick idOf phaseOf) {steps : List Step}
    (hid : ∀ step ∈ steps, step.outcome.id = .ofIndex step.index) :
    (steps.filterMap fun step => pick step.outcome).map idOf
      = (indicesOf pick steps).map .ofIndex := by
  induction steps with
  | nil => rfl
  | cons step steps ih =>
    have hrest := ih fun other hother => hid other (List.mem_cons_of_mem _ hother)
    rw [List.filterMap_cons, indicesOf, List.filter_cons]
    cases hpicked : pick step.outcome with
    | none => exact hrest
    | some a =>
      have hhead : idOf a = .ofIndex step.index :=
        (hpick.id hpicked).trans (hid step List.mem_cons_self)
      exact congrArg₂ List.cons hhead hrest

/-- The steps from which `pick` can take something are in order. -/
private theorem pairwise_indicesOf {α : Type} (pick : Outcome → Option α) {steps : List Step}
    {index : Nat} (h : steps.map (·.index) = List.range' index steps.length) :
    (indicesOf pick steps).Pairwise (· < ·) := by
  have hsublist : (indicesOf pick steps).Sublist (List.range' index steps.length) := by
    rw [← h]
    exact List.filter_sublist.map _
  exact List.Pairwise.sublist hsublist (List.pairwise_lt_range' 1)

/-- The steps with a record and those with a skip are all `steps`. -/
private theorem indicesOf_perm (steps : List Step) :
    (indicesOf Run.record? steps ++ indicesOf Run.skip? steps).Perm (steps.map (·.index)) := by
  have hskip : ∀ outcome : Outcome,
      (Run.skip? outcome).isSome = !(Run.record? outcome).isSome := by
    intro outcome
    cases outcome <;> rfl
  simp only [indicesOf, hskip]
  rw [← List.map_append]
  exact (List.filter_append_perm _ steps).map _

/-! ### The accounts -/

/-- The attempt number `index` lies in one window of the schedule only, and that is a window of the
`phase`. -/
def PhaseAt (s : Schedule) (index : Nat) (phase : Phase) : Prop :=
  ∃ w ∈ s.windows, w.contains index = true ∧ w.phase = phase ∧
    ∀ w' ∈ s.windows, w'.contains index = true → w' = w

/-- The identifiers `ids` are those of attempts with ever larger numbers. -/
def InOrder (ids : List AttemptId) : Prop :=
  ∃ indices : List Nat, indices.Pairwise (· < ·) ∧ ids = indices.map .ofIndex

/-- The accounts of the run `r` under a `schedule`. -/
structure Run.Accounts (schedule : Schedule) (r : Run) : Prop where
  /-- Every number of the trial has a window, so that no attempt is passed over
  (`Schedule.window?`). -/
  window : ∀ index, 1 ≤ index → index ≤ schedule.total → (schedule.window? index).isSome = true
  /-- The attempts have different identifiers. -/
  distinct : ((List.range' 1 r.processed).map AttemptId.ofIndex).Nodup
  /-- Every attempt is put down once, either recorded or skipped. -/
  once : ∀ index, 1 ≤ index → index ≤ r.processed →
    (r.ledger.records.map (·.id)).count (.ofIndex index)
      + (r.ledger.skips.map (·.id)).count (.ofIndex index) = 1
  /-- Nothing else is put down. -/
  noOther : ∀ id ∈ r.ledger.records.map (·.id) ++ r.ledger.skips.map (·.id),
    ∃ index, 1 ≤ index ∧ index ≤ r.processed ∧ id = .ofIndex index
  recordsInOrder : InOrder (r.ledger.records.map (·.id))
  skipsInOrder : InOrder (r.ledger.skips.map (·.id))
  recordPhase : ∀ record ∈ r.ledger.records, ∀ index, record.id = .ofIndex index →
    PhaseAt schedule index record.phase
  skipPhase : ∀ skip ∈ r.ledger.skips, ∀ index, skip.id = .ofIndex index →
    PhaseAt schedule index skip.phase
  processed_le : r.processed ≤ schedule.total
  /-- A run is cancelled if it lacks attempts, and only then. -/
  cancelled_iff : r.cancelled = true ↔ r.processed < schedule.total

section Course

variable {G : Type} [WordSource G] {t : Trial} {roster : Roster} {g g' : G} {steps : List Step}
  {transcript : Transcript}

theorem Course.id_eq (h : Course (t.Attempted roster) 1 g steps transcript g') :
    ∀ step ∈ steps, step.outcome.id = .ofIndex step.index := by
  intro step hstep
  obtain ⟨entries, g₁, g₂, hmade⟩ := h.exists_made hstep
  exact hmade.id_phase.1

/-- What `pick` takes out of a course has the phase that its attempt belongs to. -/
theorem Course.phaseAt {α : Type} {pick : Outcome → Option α} {idOf : α → AttemptId}
    {phaseOf : α → Phase} (hpick : Picks pick idOf phaseOf)
    (h : Course (t.Attempted roster) 1 g steps transcript g') {a : α}
    (ha : a ∈ steps.filterMap fun step => pick step.outcome) {index : Nat}
    (hid : idOf a = .ofIndex index) : PhaseAt t.schedule index (phaseOf a) := by
  obtain ⟨step, hstep, hpicked⟩ := List.mem_filterMap.mp ha
  obtain ⟨entries, g₁, g₂, hmade⟩ := h.exists_made hstep
  obtain ⟨hid', w, hwindow, hphase⟩ := hmade.id_phase
  obtain ⟨hmem, hcontains⟩ := Schedule.window?_eq_some_iff.mp hwindow
  have hnumber : AttemptId.ofIndex step.index = .ofIndex index := by
    rw [← hid', ← hpick.id hpicked, hid]
  obtain rfl := AttemptId.ofIndex_injective hnumber
  refine ⟨w, hmem, hcontains, ?_, fun w' hmem' hcontains' => ?_⟩
  · rw [hpick.phase hpicked, hphase]
  · exact Schedule.windows_unique hmem' hmem hcontains' hcontains

/-- What is put down of a `Course` are its attempts. -/
theorem Course.ids_perm (h : Course (t.Attempted roster) 1 g steps transcript g')
    (cancelled : Bool) :
    ((⟨steps, cancelled⟩ : Run).ledger.records.map (·.id)
      ++ (⟨steps, cancelled⟩ : Run).ledger.skips.map (·.id)).Perm
        ((List.range' 1 steps.length).map .ofIndex) := by
  unfold Run.ledger
  rw [picks_record?.map_id_filterMap h.id_eq, picks_skip?.map_id_filterMap h.id_eq,
    ← List.map_append, ← h.map_index]
  exact (indicesOf_perm steps).map _

/-- The accounts of a `Course` are in order. -/
theorem Course.accounts (h : Course (t.Attempted roster) 1 g steps transcript g') {cancelled : Bool}
    (hlength : steps.length ≤ t.schedule.total)
    (hcut : cancelled = true ↔ steps.length < t.schedule.total) :
    (⟨steps, cancelled⟩ : Run).Accounts t.schedule := by
  -- records and skips together are the numbers from one to the length, so each is there once
  have hperm := h.ids_perm cancelled
  have hdistinct : ((List.range' 1 steps.length).map AttemptId.ofIndex).Nodup :=
    List.Nodup.map AttemptId.ofIndex_injective (List.nodup_range' 1)
  have hmem : ∀ id, id ∈ (List.range' 1 steps.length).map AttemptId.ofIndex ↔
      ∃ index, 1 ≤ index ∧ index ≤ steps.length ∧ id = .ofIndex index := by
    intro id
    simp only [List.mem_map, List.mem_range'_1]
    refine exists_congr fun index => ?_
    rw [show index < 1 + steps.length ↔ index ≤ steps.length by omega, and_assoc,
      eq_comm (b := id)]
  refine ⟨fun index hpos hle => ?_, hdistinct, fun index hpos hle => ?_, fun id hid => ?_, ?_, ?_,
    fun record hrecord index hid => ?_, fun skip hskip index hid => ?_, hlength, hcut⟩
  · exact Option.isSome_iff_exists.mpr (Schedule.exists_window? hpos hle)
  · rw [← List.count_append, hperm.count_eq]
    exact List.count_eq_one_of_mem hdistinct ((hmem _).mpr ⟨index, hpos, hle, rfl⟩)
  · exact (hmem id).mp (hperm.mem_iff.mp hid)
  · exact ⟨_, pairwise_indicesOf Run.record? h.map_index, picks_record?.map_id_filterMap h.id_eq⟩
  · exact ⟨_, pairwise_indicesOf Run.skip? h.map_index, picks_skip?.map_id_filterMap h.id_eq⟩
  · exact h.phaseAt picks_record? hrecord hid
  · exact h.phaseAt picks_skip? hskip hid

end Course

end Trial

/-! ### Runs of sessions -/

/-- The first run of a `session` with settings takes a course of their trial. -/
theorem Session.course_of_run {settings : Settings} {session : Session}
    (hsession : Session.ofSettings? settings = .ok session) {σ : Type}
    (services : Services (StateM σ)) {directory : Directory (StateM σ)} (entropy : Keystream)
    {s : σ} {roster : Roster} (hresolve : (directory.resolve s).1.1 = .ok roster) :
    Trial.Follows settings session.trial ∧
      ∃ run g, (session.run services directory entropy s).1.result = .ok run ∧
        Trial.Course (session.trial.Attempted roster) 1 (session.trial.source entropy) run.steps
          (session.watch services directory entropy s).2 g ∧
        run.processed ≤ session.trial.schedule.total ∧
        (run.cancelled = true ↔ run.processed < session.trial.schedule.total) := by
  obtain ⟨htrial, hidle⟩ := Session.ofSettings?_eq_ok hsession
  refine ⟨Trial.follows_of_ofSettings? htrial, ?_⟩
  rw [← Session.watch_fst]
  exact Session.course_of_watch services entropy hidle hresolve

/-- **Accounts.** The first run of a session succeeds with its accounts in order
(`Trial.Run.Accounts`), for all settings that are accepted, all services and every moment of a
cancellation. -/
theorem Session.exists_accounts {settings : Settings} {session : Session}
    (hsession : Session.ofSettings? settings = .ok session) {σ : Type}
    (services : Services (StateM σ)) {directory : Directory (StateM σ)} (entropy : Keystream)
    {s : σ} {roster : Roster} (hresolve : (directory.resolve s).1.1 = .ok roster) :
    ∃ run : Trial.Run, (session.run services directory entropy s).1.result = .ok run ∧
      (session.trial.schedule.total : Int) = settings.total ∧
      run.Accounts session.trial.schedule := by
  obtain ⟨htrial, hidle⟩ := Session.ofSettings?_eq_ok hsession
  have hfollows := Trial.follows_of_ofSettings? htrial
  obtain ⟨run, g, hresult, hcourse, hlength, hcut⟩ :=
    Session.course_of_watch services entropy hidle hresolve
  refine ⟨run, ?_, ?_, hcourse.accounts hlength hcut⟩
  · rw [← Session.watch_fst]
    exact hresult
  · rw [hfollows.schedule]
    exact Int.toNat_of_nonneg (Int.le_of_lt hfollows.total_pos)

/-- Accounts of a trial that is cancelled behind its second attempt. -/
theorem Session.exists_accounts_of_cancelled :
    ∃ (session : Session) (run : Trial.Run), Session.ofSettings? .four = .ok session ∧
      (session.run (.declining 2 "a") .two (.ofSeed 0) 0).1.result = .ok run ∧
      run.Accounts session.trial.schedule := by
  obtain ⟨session, hsession⟩ : ∃ session, Session.ofSettings? .four = .ok session := ⟨_, rfl⟩
  have hresolve : (Directory.two.resolve 0).1.1 = .ok (.ofList [("a", "1"), ("b", "2")]) := rfl
  obtain ⟨run, hrun, -, haccounts⟩ :=
    Session.exists_accounts hsession (.declining 2 "a") (.ofSeed 0) hresolve
  exact ⟨session, run, hsession, hrun, haccounts⟩

end RouterTrial
