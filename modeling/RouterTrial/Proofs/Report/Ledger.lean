import Mathlib.Data.List.Forall2
import RouterTrial.Exchange.SummaryService
import RouterTrial.Proofs.Exchange.Decision
import RouterTrial.Proofs.Exchange.Log
import RouterTrial.Proofs.Json.Value

/-!
# Ledgers in use

A ledger takes records and skips in any order, and in between it may be asked for reports, each with
a summarizer of its own or without one (`Ledger.follow`). Summarizers act on a state, so that what
they answer may depend on everything that they have been asked before.

Every report is the one on the records and the number of skips so far, apart from its narrative, and
asking for it changes nothing for those that follow. Two ways of using a ledger that agree but for
their skips give reports that agree but for the number of them, and as soon as both have noted
equally many skips the reports are the same (`Ledger.follow_append_report_and_skips`).
-/

namespace RouterTrial

/-! ### What a summarizer yields -/

namespace Ledger

variable {σ : Type}

/-- The text that the `summarizer` gives for `records`, if there is one that does, and the state
that it leaves. -/
def summary (summarizer : Option (Summarizer (StateM σ))) (records : List Record) (s : σ) :
    Option String × σ :=
  match summarizer with
  | none => (none, s)
  | some summarize => ((summarize records s).1.toOption, (summarize records s).2)

theorem summary_eq_some_iff {summarizer : Option (Summarizer (StateM σ))} {records : List Record}
    {s : σ} {text : String} :
    (summary summarizer records s).1 = some text ↔
      ∃ summarize, summarizer = some summarize ∧ (summarize records s).1 = .ok text := by
  cases summarizer with
  | none => exact ⟨nofun, nofun⟩
  | some summarize =>
    simp only [summary, Option.some.injEq, exists_eq_left']
    cases (summarize records s).1 with
    | ok text' => exact Option.some_inj.trans ⟨congrArg Except.ok, Except.ok.inj⟩
    | error fault => exact ⟨nofun, nofun⟩

/-- A report has the counts of the ledger `l` and what the `summarizer` yields. -/
theorem exists_reportWith_eq (l : Ledger) (generatedAt : Instant)
    (summarizer : Option (Summarizer (StateM σ))) (s : σ) :
    let yielded := summary summarizer l.records s
    ∃ log, l.reportWith generatedAt summarizer s
      = (({ l.report generatedAt with narrative := yielded.1 }, log), yielded.2) := by
  cases summarizer with
  | none => exact ⟨[], rfl⟩
  | some summarize =>
    rw [reportWith, stateM_bind_apply, summary]
    cases (summarize l.records s).1 with
    | ok text => exact ⟨_, rfl⟩
    | error fault => exact ⟨_, rfl⟩

end Ledger

/-! ### The summary service -/

/-- The `text` stands in the first part of the first candidate of `v`. -/
def Json.HasSummary (v : Json) (text : String) : Prop :=
  ∃ candidates candidate content parts part,
    v.member? "candidates" = some (.array candidates) ∧ candidates[0]? = some candidate ∧
      candidate.member? "content" = some content ∧
      content.member? "parts" = some (.array parts) ∧ parts[0]? = some part ∧
      part.member? "text" = some (.string text)

private theorem Json.item?_eq_some_iff {v item : Json} {i : Nat} :
    v.item? i = some item ↔ ∃ items, v = .array items ∧ items[i]? = some item := by
  cases v with
  | array items => simp [item?]
  | null | bool _ | int _ | float _ | string _ | object _ => simp [item?]

/-- The answer `a` is one of success, and its body is JSON with the `text` of a summary. -/
def Answer.Summarizes (a : Answer) (text : String) : Prop :=
  ∃ r body v, a = .reply r ∧ (200 ≤ r.status ∧ r.status < 300) ∧ r.exactText? = some body ∧
    Json.ofText? body = some v ∧ v.HasSummary text

namespace SummaryService

theorem candidateText?_eq_some_iff {v : Json} {text : String} :
    candidateText? v = some text ↔ v.HasSummary text := by
  simp only [candidateText?, Option.bind_eq_bind, Option.bind_eq_some_iff,
    Json.item?_eq_some_iff, Json.string?_eq_some_iff, Json.HasSummary]
  constructor
  · rintro ⟨_, hcandidates, candidate, ⟨candidates, rfl, hcandidate⟩, content, hcontent, _, hparts,
      part, ⟨parts, rfl, hpart⟩, _, htext, rfl⟩
    exact ⟨candidates, candidate, content, parts, part, hcandidates, hcandidate, hcontent, hparts,
      hpart, htext⟩
  · rintro ⟨candidates, candidate, content, parts, part, hcandidates, hcandidate, hcontent, hparts,
      hpart, htext⟩
    exact ⟨_, hcandidates, candidate, ⟨candidates, rfl, hcandidate⟩, content, hcontent, _, hparts,
      part, ⟨parts, rfl, hpart⟩, _, htext, rfl⟩

theorem readSummary_reply_eq_ok_iff {r : Reply} {text : String} :
    readSummary (.reply r) = .ok text ↔ r.isSuccess = true ∧
      ∃ v, r.exactText?.bind Json.ofText? = some v ∧ candidateText? v = some text := by
  rw [readSummary]
  cases r.isSuccess with
  | false => exact ⟨nofun, fun h => absurd h.1 Bool.false_ne_true⟩
  | true =>
    rw [if_pos rfl]
    cases r.exactText?.bind Json.ofText? with
    | none => exact ⟨nofun, fun ⟨_, _, h, _⟩ => by cases h⟩
    | some v =>
      simp only [Option.some.injEq, exists_eq_left', true_and]
      cases candidateText? v with
      | none => exact ⟨nofun, nofun⟩
      | some text' =>
        exact ⟨fun h => congrArg some (Except.ok.inj h), fun h => by rw [Option.some.inj h]⟩

/-- A summary is read from the answer `a` exactly if `a` has one. -/
theorem readSummary_eq_ok_iff {a : Answer} {text : String} :
    readSummary a = .ok text ↔ a.Summarizes text := by
  cases a with
  | failed => exact ⟨nofun, fun ⟨_, _, _, h, _⟩ => by cases h⟩
  | reply r =>
    rw [readSummary_reply_eq_ok_iff, Reply.isSuccess_iff]
    simp only [Option.bind_eq_some_iff, candidateText?_eq_some_iff]
    constructor
    · rintro ⟨hstatus, v, ⟨body, hbody, hvalue⟩, htext⟩
      exact ⟨r, body, v, rfl, hstatus, hbody, hvalue, htext⟩
    · rintro ⟨_, body, v, heq, hstatus, hbody, hvalue, htext⟩
      obtain rfl := Answer.reply.inj heq
      exact ⟨hstatus, v, ⟨body, hbody, hvalue⟩, htext⟩

end SummaryService

/-! ### Using a ledger -/

namespace Ledger

variable {σ : Type}

/-- What is done with a ledger. -/
inductive Step (σ : Type) where
  | record (r : Record)
  | skip (s : Skip)
  /-- A report is asked for. -/
  | report (generatedAt : Instant) (summarizer : Option (Summarizer (StateM σ)))

namespace Step

/-- The record that is noted. -/
def record? : Step σ → Option Record
  | record r => some r
  | skip _ => none
  | report _ _ => none

/-- The skip that is noted. -/
def skip? : Step σ → Option Skip
  | record _ => none
  | skip s => some s
  | report _ _ => none

end Step

/-- The records of the `steps`, in order. -/
def recordsOf (steps : List (Step σ)) : List Record := steps.filterMap Step.record?

/-- The skips of the `steps`, in order. -/
def skipsOf (steps : List (Step σ)) : List Skip := steps.filterMap Step.skip?

/-- The `steps` without their skips. -/
def withoutSkips (steps : List (Step σ)) : List (Step σ) := steps.filter (·.skip?.isNone)

/-- Does one step after the other, and gives the reports that have been asked for and the `Ledger`
at the end. -/
def follow : Ledger → List (Step σ) → StateM σ (List Report × Ledger)
  | l, [] => pure ([], l)
  | l, .record r :: steps => follow (l.record r) steps
  | l, .skip s :: steps => follow (l.skip s) steps
  | l, .report generatedAt summarizer :: steps => do
    let given ← l.reportWith generatedAt summarizer
    let rest ← follow l steps
    return (given.1 :: rest.1, rest.2)

/-- A report is followed by what the `steps` behind it give, from the same ledger. -/
theorem follow_report_cons (l : Ledger) (generatedAt : Instant)
    (summarizer : Option (Summarizer (StateM σ))) (steps : List (Step σ)) (s : σ) :
    let yielded := summary summarizer l.records s
    let rest := l.follow steps yielded.2
    l.follow (.report generatedAt summarizer :: steps) s
      = (({ l.report generatedAt with narrative := yielded.1 } :: rest.1.1, rest.1.2), rest.2) := by
  obtain ⟨log, hreport⟩ := l.exists_reportWith_eq generatedAt summarizer s
  rw [follow, stateM_bind_apply, hreport]
  rfl

theorem follow_append (l : Ledger) (before after : List (Step σ)) (s : σ) :
    let past := l.follow before s
    let rest := past.1.2.follow after past.2
    l.follow (before ++ after) s = ((past.1.1 ++ rest.1.1, rest.1.2), rest.2) := by
  induction before generalizing l s with
  | nil => rfl
  | cons step before ih =>
    cases step with
    | record r => exact ih (l.record r) s
    | skip skipped => exact ih (l.skip skipped) s
    | report generatedAt summarizer =>
      rw [List.cons_append]
      simp only [follow_report_cons, ih, List.cons_append]

/-- At the end the ledger `l` has what has been noted in it, and nothing has been taken out. -/
theorem ledger_of_follow (l : Ledger) (steps : List (Step σ)) (s : σ) :
    (l.follow steps s).1.2 = ⟨l.records ++ recordsOf steps, l.skips ++ skipsOf steps⟩ := by
  induction steps generalizing l s with
  | nil =>
    rw [recordsOf, skipsOf, List.filterMap_nil, List.filterMap_nil, List.append_nil,
      List.append_nil]
    rfl
  | cons step steps ih =>
    cases step with
    | record r =>
      refine (ih (l.record r) s).trans ?_
      rw [record, List.append_assoc]
      rfl
    | skip skipped =>
      refine (ih (l.skip skipped) s).trans ?_
      rw [skip, List.append_assoc]
      rfl
    | report generatedAt summarizer =>
      rw [follow_report_cons]
      exact ih l _

/-! ### Skips -/

/-- The reports `r` and `r'` are the same, but for the number of skips. -/
def AgreeButSkipped (r r' : Report) : Prop := r = { r' with skipped := r.skipped }

/-- Ledgers `l` and `l'` with the same records agree but for the number of skips. -/
theorem agreeButSkipped_report {l l' : Ledger} (h : l.records = l'.records) (generatedAt : Instant)
    (narrative : Option String) :
    AgreeButSkipped { l.report generatedAt with narrative }
      { l'.report generatedAt with narrative } := by
  rw [AgreeButSkipped, report, report, h]
  rfl

/-- Skips show in nothing but their number: neither in what else is reported nor in what the
summarizers are asked. The `steps` are done with them and without them. -/
theorem agreeButSkipped_withoutSkips {l l' : Ledger} (h : l.records = l'.records)
    (steps : List (Step σ)) (s : σ) :
    List.Forall₂ AgreeButSkipped (l.follow steps s).1.1 (l'.follow (withoutSkips steps) s).1.1 ∧
      (l.follow steps s).2 = (l'.follow (withoutSkips steps) s).2 := by
  -- along the steps: the records stay the same, and so does the state, since a summarizer is shown
  -- nothing but records
  induction steps generalizing l l' s with
  | nil => exact ⟨.nil, rfl⟩
  | cons step steps ih =>
    cases step with
    | record r =>
      have hrecords : (l.record r).records = (l'.record r).records := congrArg (· ++ [r]) h
      exact ih hrecords s
    | skip skipped =>
      have hrecords : (l.skip skipped).records = l'.records := h
      exact ih hrecords s
    | report generatedAt summarizer =>
      have hsteps : withoutSkips (.report generatedAt summarizer :: steps)
          = .report generatedAt summarizer :: withoutSkips steps := rfl
      rw [hsteps, follow_report_cons, follow_report_cons, ← h]
      obtain ⟨hreports, hstate⟩ := ih h (summary summarizer l.records s).2
      exact ⟨.cons (agreeButSkipped_report h generatedAt _) hreports, hstate⟩

/-- From ledgers `l` and `l'` with the same records and equally many skips the same reports are
given. -/
theorem follow_congr {l l' : Ledger} (hrecords : l.records = l'.records)
    (hskips : l.skips.length = l'.skips.length) (steps : List (Step σ)) (s : σ) :
    (l.follow steps s).1.1 = (l'.follow steps s).1.1 := by
  -- each step is done to both ledgers, so that they still have equally many skips behind it
  induction steps generalizing l l' s with
  | nil => rfl
  | cons step steps ih =>
    cases step with
    | record r =>
      have hrecords' : (l.record r).records = (l'.record r).records :=
        congrArg (· ++ [r]) hrecords
      exact ih hrecords' hskips s
    | skip skipped =>
      have hrecords' : (l.skip skipped).records = (l'.skip skipped).records := hrecords
      have hskips' : (l.skip skipped).skips.length = (l'.skip skipped).skips.length := by
        rw [skip, skip, List.length_append, List.length_append, hskips]
      exact ih hrecords' hskips' s
    | report generatedAt summarizer =>
      rw [follow_report_cons, follow_report_cons, report, report, hrecords, hskips,
        ih hrecords hskips]

private theorem recordsOf_withoutSkips (steps : List (Step σ)) :
    recordsOf (withoutSkips steps) = recordsOf steps := by
  rw [recordsOf, withoutSkips, List.filterMap_filter, recordsOf]
  refine List.filterMap_congr fun step _ => ?_
  cases step <;> rfl

/-- A ledger that has been used from the start has the records and skips of the `steps`. -/
private theorem ledger_of_follow_empty (steps : List (Step σ)) (s : σ) :
    (empty.follow steps s).1.2 = ⟨recordsOf steps, skipsOf steps⟩ :=
  ledger_of_follow empty steps s

/-- What is done `before` a report decides it, together with its summarizer. -/
private theorem follow_empty_append_report (before after : List (Step σ)) (generatedAt : Instant)
    (summarizer : Option (Summarizer (StateM σ))) (s : σ) :
    let past := empty.follow before s
    let yielded := summary summarizer (recordsOf before) past.2
    let given : Report :=
      { Report.ofRecords (recordsOf before) (skipsOf before).length generatedAt with
        narrative := yielded.1 }
    let rest := past.1.2.follow after yielded.2
    empty.follow (before ++ .report generatedAt summarizer :: after) s
      = ((past.1.1 ++ given :: rest.1.1, rest.1.2), rest.2) := by
  simp only [follow_append, follow_report_cons, ledger_of_follow_empty]
  rfl

/-- Equally many skips, wherever they stand in `before` and `before'`, are followed by the same
reports. -/
private theorem exists_later_of_withoutSkips_eq {before before' : List (Step σ)}
    (hsame : withoutSkips before = withoutSkips before')
    (hskips : (skipsOf before).length = (skipsOf before').length) (after : List (Step σ)) (s : σ) :
    ∃ later,
      (empty.follow (before ++ after) s).1.1 = (empty.follow before s).1.1 ++ later ∧
        (empty.follow (before' ++ after) s).1.1 = (empty.follow before' s).1.1 ++ later := by
  have hrecords : recordsOf before = recordsOf before' := by
    rw [← recordsOf_withoutSkips, hsame, recordsOf_withoutSkips]
  have hstate : (empty.follow before s).2 = (empty.follow before' s).2 := by
    rw [(agreeButSkipped_withoutSkips rfl before s).2, hsame,
      ← (agreeButSkipped_withoutSkips rfl before' s).2]
  -- what comes later starts from the two ledgers, but from one state
  refine ⟨_, by rw [follow_append], ?_⟩
  rw [follow_append, hstate, ledger_of_follow_empty, ledger_of_follow_empty]
  exact congrArg _ (follow_congr hrecords hskips after _).symm

/-- **Ledgers in use.** A report has the records and the number of skips that have been noted before
it, and for its narrative what its summarizer yields (`Ledger.summary`); asking for it leaves the
ledger as it is, and what follows goes on from there. Without the skips all reports are the same but
for the number of skips. Steps that agree but for their skips, of which they have equally many, are
followed by the same reports. A summary service yields the text of an answer of success that holds
one, and of no other answer. -/
theorem follow_append_report_and_skips :
    (∀ (before after : List (Step σ)) (generatedAt : Instant)
        (summarizer : Option (Summarizer (StateM σ))) (s : σ),
      let past := empty.follow before s
      let yielded := summary summarizer (recordsOf before) past.2
      let given : Report :=
        { Report.ofRecords (recordsOf before) (skipsOf before).length generatedAt with
          narrative := yielded.1 }
      let rest := past.1.2.follow after yielded.2
      past.1.2 = ⟨recordsOf before, skipsOf before⟩ ∧
        empty.follow (before ++ .report generatedAt summarizer :: after) s
          = ((past.1.1 ++ given :: rest.1.1, rest.1.2), rest.2) ∧
        ∀ text, given.narrative = some text ↔ ∃ summarize, summarizer = some summarize ∧
          (summarize (recordsOf before) past.2).1 = .ok text) ∧
    (∀ (steps : List (Step σ)) (s : σ),
      List.Forall₂ AgreeButSkipped (empty.follow steps s).1.1
        (empty.follow (withoutSkips steps) s).1.1) ∧
    (∀ (before before' after : List (Step σ)) (s : σ),
      withoutSkips before = withoutSkips before' →
        (skipsOf before).length = (skipsOf before').length →
        ∃ later,
          (empty.follow (before ++ after) s).1.1 = (empty.follow before s).1.1 ++ later ∧
            (empty.follow (before' ++ after) s).1.1 = (empty.follow before' s).1.1 ++ later) ∧
    ∀ (service : SummaryService) (network : Network (StateM σ)) (records : List Record) (s : σ)
        (text : String),
      (service.summarize network records s).1 = .ok text ↔
        (network.send (service.request records) s).1.Summarizes text := by
  refine ⟨fun before after generatedAt summarizer s => ⟨ledger_of_follow_empty before s,
      follow_empty_append_report before after generatedAt summarizer s,
      fun text => summary_eq_some_iff⟩,
    fun steps s => (agreeButSkipped_withoutSkips rfl steps s).1,
    fun before before' after s hsame hskips =>
      exists_later_of_withoutSkips_eq hsame hskips after s,
    fun service network records s text => SummaryService.readSummary_eq_ok_iff⟩

end Ledger

end RouterTrial
