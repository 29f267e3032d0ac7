import RouterTrial.Proofs.Exchange.Decision
import RouterTrial.Proofs.Exchange.Log
import RouterTrial.Proofs.Trial.Conversation

/-!
# Dialogues

What the program attempts to send for one attempt of its trial is a dialogue (`Settings.Dialogue`):
the question for a decision, and, if the answer names a connector of the roster, the payment and the
feedback on it. The answer to the question alone decides whether the attempt is recorded or skipped,
and why (`Verdict`).

A trial that nobody asks to stop has one dialogue for each of its attempts, whatever its servers
answer (`Settings.Conducts`). That follows from the conversation of the trial with its services,
each call of which is attempted as one request.
-/

namespace RouterTrial

/-! ### Counting requests -/

/-- The request of the exchange `e` goes to `path` below the address `base`. -/
def Exchange.isTo (base path : String) (e : Exchange) : Bool :=
  e.request.url == Request.below base path

private theorem Request.below_ne {base base' path path' : String}
    (h : path.toList.getLast? ≠ path'.toList.getLast?) (hpath : path.toList ≠ [])
    (hpath' : path'.toList ≠ []) : below base path ≠ below base' path' := by
  intro heq
  have hlast : ∀ base path : String, path.toList ≠ [] →
      (below base path).toList.getLast? = path.toList.getLast? := by
    intro base path hpath
    rw [below, String.toList_append, List.getLast?_append_of_ne_nil _ hpath]
  rw [← hlast base path hpath, ← hlast base' path' hpath', heq] at h
  exact h rfl

/-- What is counted at each attempt by what `pick` takes out of its outcome is so in all. -/
theorem Trial.countP_flatten {α β : Type} {p : β → Bool} {pick : Trial.Outcome → Option α}
    {groups : List (List β)} {steps : List Trial.Step}
    (h : List.Forall₂ (fun group step => group.countP p = (pick step.outcome).toList.length) groups
      steps) :
    groups.flatten.countP p = (steps.filterMap fun step => pick step.outcome).length := by
  induction h with
  | nil => rfl
  | @cons _ step _ _ hgroup _ ih =>
    rw [List.flatten_cons, List.countP_append, hgroup, ih, List.filterMap_cons]
    cases pick step.outcome with
    | none => exact Nat.zero_add _
    | some a => exact Nat.add_comm 1 _

/-! ### Verdicts -/

/-- What the `answer` to the question for a decision makes of the attempt number `index`. -/
structure Verdict (roster : Roster) (index : Nat) (answer : Answer) (outcome : Trial.Outcome) :
    Prop where
  noDecision : (∃ phase, outcome = .skipped ⟨.ofIndex index, phase, .noDecision⟩) ↔
    answer.Undecided
  unknownConnector : ∀ connector,
    (∃ phase, outcome = .skipped ⟨.ofIndex index, phase, .unknownConnector connector⟩) ↔
      answer.Names connector ∧ connector ∉ roster.names
  recorded : ∀ connector,
    (∃ record, outcome = .recorded record ∧ record.connector = connector) ↔
      answer.Names connector ∧ connector ∈ roster.names

section Verdict

variable {roster : Roster} {index : Nat} {answer : Answer} {connector : String} {phase : Phase}

theorem Verdict.of_undecided (h : answer.Undecided) :
    Verdict roster index answer (.skipped ⟨.ofIndex index, phase, .noDecision⟩) where
  noDecision := by simp [h]
  unknownConnector := by simp [h.not_names]
  recorded := by simp [h.not_names]

theorem Verdict.of_unknown (h : answer.Names connector) (hunknown : connector ∉ roster.names) :
    Verdict roster index answer
      (.skipped ⟨.ofIndex index, phase, .unknownConnector connector⟩) where
  noDecision := by
    have hdecided : ¬answer.Undecided := fun hundecided => hundecided.not_names connector h
    simp [hdecided]
  unknownConnector other := by
    rw [h.names_iff_eq]
    constructor
    · rintro ⟨_, heq⟩
      cases heq
      exact ⟨rfl, hunknown⟩
    · rintro ⟨rfl, -⟩
      exact ⟨phase, rfl⟩
  recorded other := by
    rw [h.names_iff_eq]
    constructor
    · rintro ⟨_, heq, -⟩
      cases heq
    · rintro ⟨rfl, hmem⟩
      exact absurd hmem hunknown

theorem Verdict.of_known {record : Record} (h : answer.Names record.connector)
    (hknown : record.connector ∈ roster.names) :
    Verdict roster index answer (.recorded record) where
  noDecision := by
    have hdecided : ¬answer.Undecided := fun hundecided => hundecided.not_names _ h
    simp [hdecided]
  unknownConnector other := by
    rw [h.names_iff_eq]
    constructor
    · rintro ⟨_, heq⟩
      cases heq
    · rintro ⟨rfl, hmem⟩
      exact absurd hknown hmem
  recorded other := by
    rw [h.names_iff_eq]
    constructor
    · rintro ⟨_, heq, rfl⟩
      obtain rfl := Trial.Outcome.recorded.inj heq
      exact ⟨rfl, hknown⟩
    · rintro ⟨rfl, -⟩
      exact ⟨record, rfl, rfl⟩

end Verdict

/-! ### Dialogues -/

namespace Settings

/-- The question for a decision at the attempt number `index`. -/
def queryAt (s : Settings) (roster : Roster) (index : Nat) : DecisionQuery :=
  ⟨.ofIndex index, roster.names, s.ranking, .standard⟩

/-- What is attempted behind the decision of the attempt number `index`. -/
inductive Settles (s : Settings) (roster : Roster) (index : Nat) :
    List Exchange → Trial.Outcome → Prop
  | skipped {phase : Phase} {reason : SkipReason} :
      Settles s roster index [] (.skipped ⟨.ofIndex index, phase, reason⟩)
  | recorded {record : Record} {account : String} {paid told : Answer}
      (hid : record.id = .ofIndex index)
      (haccount : roster.account? record.connector = some account) :
      Settles s roster index
        [⟨s.paymentService.orderRequest ⟨record.id, record.connector, account, record.card⟩, paid⟩,
          ⟨s.decisionService.feedbackRequest record.feedback, told⟩]
        (.recorded record)

/-- What is attempted at the attempt number `index`: the question for a decision, and what follows
from the answer to it. -/
def Dialogue (s : Settings) (roster : Roster) (index : Nat) (exchanges : List Exchange)
    (outcome : Trial.Outcome) : Prop :=
  ∃ answer rest,
    exchanges = ⟨s.decisionService.queryRequest (s.queryAt roster index), answer⟩ :: rest ∧
      Verdict roster index answer outcome ∧ s.Settles roster index rest outcome

/-- A `block` of calls is attempted as a `Dialogue`. -/
private theorem dialogue_of_block {s : Settings} {roster : Roster} {index : Nat}
    {block : Transcript} {outcome : Trial.Outcome} {exchanges : List Exchange}
    (hblock : Trial.Block s roster index block outcome)
    (hexchanged : List.Forall₂ s.Exchanged exchanges block) :
    s.Dialogue roster index exchanges outcome := by
  cases hblock with
  | undecided hnone =>
    obtain _ | ⟨hdecided, hrest⟩ := hexchanged
    obtain rfl := List.forall₂_nil_right_iff.mp hrest
    obtain ⟨_, answer⟩ := hdecided
    exact ⟨answer, [], rfl, .of_undecided (DecisionService.undecided_iff.mpr hnone), .skipped⟩
  | unknown hconnector haccount =>
    obtain _ | ⟨hdecided, hrest⟩ := hexchanged
    obtain rfl := List.forall₂_nil_right_iff.mp hrest
    obtain ⟨_, answer⟩ := hdecided
    exact ⟨answer, [], rfl, .of_unknown (DecisionService.names_iff.mpr hconnector)
      (Roster.account?_eq_none_iff.mp haccount), .skipped⟩
  | @paid _ connector account card _ _ record hconnector haccount hrecord =>
    obtain _ | ⟨hdecided, hrest⟩ := hexchanged
    obtain _ | ⟨hexecuted, hrest⟩ := hrest
    obtain _ | ⟨hreported, hrest⟩ := hrest
    obtain rfl := List.forall₂_nil_right_iff.mp hrest
    obtain ⟨_, answer⟩ := hdecided
    obtain ⟨_, paid, token⟩ := hexecuted
    obtain ⟨_, told⟩ := hreported
    have hknown : connector ∈ roster.names := by
      by_contra hunknown
      rw [Roster.account?_eq_none_iff.mpr hunknown] at haccount
      cases haccount
    have hid : record.id = .ofIndex index := hrecord.id
    have hname : record.connector = connector := hrecord.connector
    have hcard : record.card = card := hrecord.card
    have hnames := DecisionService.names_iff.mpr hconnector
    rw [← hname] at hnames hknown haccount
    refine ⟨answer, _, rfl, .of_known hnames hknown, ?_⟩
    rw [← hrecord.status, ← hid, ← hname, ← hcard]
    exact .recorded hid haccount

/-- Of the requests of a `Dialogue` one asks for a decision, and there is a payment and a feedback
on it exactly if the attempt is recorded. -/
theorem Dialogue.countP_eq {s : Settings} {roster : Roster} {index : Nat}
    {exchanges : List Exchange} {outcome : Trial.Outcome}
    (h : s.Dialogue roster index exchanges outcome) :
    exchanges.countP (Exchange.isTo s.decisionUrl "/decide-gateway") = 1 ∧
      exchanges.countP (Exchange.isTo s.paymentsUrl "/payments")
        = (Trial.Run.record? outcome).toList.length ∧
      exchanges.countP (Exchange.isTo s.decisionUrl "/update-gateway-score")
        = (Trial.Run.record? outcome).toList.length := by
  obtain ⟨answer, rest, rfl, -, hrest⟩ := h
  -- the paths end differently, so no two of the addresses are the same
  have hdecision : ∀ base base' : String,
      Request.below base "/decide-gateway" ≠ Request.below base' "/payments" := fun _ _ =>
    Request.below_ne (by decide) (by decide) (by decide)
  have hscore : ∀ base base' : String,
      Request.below base "/update-gateway-score" ≠ Request.below base' "/payments" := fun _ _ =>
    Request.below_ne (by decide) (by decide) (by decide)
  have hboth : ∀ base base' : String,
      Request.below base "/decide-gateway" ≠ Request.below base' "/update-gateway-score" :=
    fun _ _ => Request.below_ne (by decide) (by decide) (by decide)
  have hquery : ∀ query, (s.decisionService.queryRequest query).url
      = Request.below s.decisionUrl "/decide-gateway" := fun _ => rfl
  have horder : ∀ order, (s.paymentService.orderRequest order).url
      = Request.below s.paymentsUrl "/payments" := fun _ => rfl
  have hfeedback : ∀ feedback, (s.decisionService.feedbackRequest feedback).url
      = Request.below s.decisionUrl "/update-gateway-score" := fun _ => rfl
  -- a dialogue is given request by request, so its requests are counted one after the other
  cases hrest with
  | skipped => simp [Exchange.isTo, Trial.Run.record?, hquery, hdecision, hboth]
  | recorded hid haccount =>
    simp [Exchange.isTo, Trial.Run.record?, hquery, horder, hfeedback, hdecision, hscore, hboth,
      (hdecision _ _).symm, (hscore _ _).symm, (hboth _ _).symm]

/-! ### Runs -/

/-- The `run` makes all attempts of the settings, each with its dialogue. -/
structure Conducts (s : Settings) (roster : Roster) (run : Trial.Run)
    (dialogues : List (List Exchange)) : Prop where
  processed : (run.processed : Int) = s.total
  numbers : run.steps.map (·.index) = List.range' 1 run.processed
  /-- There is one of the `dialogues` for each attempt, in order. -/
  dialogue : List.Forall₂ (fun exchanges step =>
    s.Dialogue roster step.index exchanges step.outcome) dialogues run.steps
  attempted : ∀ e ∈ dialogues.flatten, e.Attempted

/-- What is attempted for the attempts of the trial `t` falls into their dialogues. -/
private theorem exists_dialogues {G : Type} [WordSource G] {s : Settings} {t : Trial}
    {roster : Roster} (hfollows : Trial.Follows s t) {blocks : List Transcript}
    {steps : List Trial.Step} {attempted : List Exchange}
    (hblocks : List.Forall₂ (fun block step =>
      ∃ g g' : G, t.Attempted roster step.index g block step.outcome g') blocks steps)
    (h : List.Forall₂ s.Exchanged attempted blocks.flatten) :
    ∃ dialogues : List (List Exchange), attempted = dialogues.flatten ∧
      List.Forall₂ (fun exchanges step => s.Dialogue roster step.index exchanges step.outcome)
        dialogues steps := by
  induction hblocks generalizing attempted with
  | nil => exact ⟨[], List.forall₂_nil_right_iff.mp h, .nil⟩
  | @cons block step rest _ hmade _ ih =>
    obtain ⟨_, _, hmade⟩ := hmade
    rw [List.flatten_cons] at h
    obtain ⟨dialogues, hrest, hdialogues⟩ := ih (List.forall₂_drop_append attempted block _ h)
    have hfirst := List.forall₂_take_append attempted block _ h
    refine ⟨attempted.take block.length :: dialogues, ?_,
      .cons (dialogue_of_block (hmade.block hfollows) hfirst) hdialogues⟩
    rw [List.flatten_cons, ← hrest, List.take_append_drop]

section Logged

variable {σ : Type} {s : Settings} {host : Host (StateM σ)}

/-- A rest of some `duration` does not show in the log. -/
private theorem rest_logged (duration : Nat) (log : List Exchange) (state : σ) :
    (s.services host.logged).rest duration log state
      = (((), log), ((s.services host).rest duration state).2) := by
  unfold Services.rest
  split <;> rfl

/-- Attempts of the trial `t` that nobody asks to stop are all made, whatever the servers answer. -/
private theorem exists_conducts_of_attempts {t : Trial} (hfollows : Trial.Follows s t)
    (hquiet : ∀ state, (host.isCancelled state).1 = false) (roster : Roster) (source : Keystream)
    (log : List Exchange) (state : σ) :
    let made := (t.attempts (s.services host.logged) roster t.schedule.total 1 source log state).1
    ∃ dialogues, s.Conducts roster ⟨made.1.steps, made.1.cancelled⟩ dialogues ∧
      made.2 = log ++ sent dialogues.flatten := by
  have hstart : s.Logs log [] log := by
    refine ⟨[], .nil, fun e he => absurd he List.not_mem_nil, ?_⟩
    rw [sent, List.filter_nil, List.append_nil]
  -- the same attempts with a transcript: they have a course, which nobody has cut short
  obtain ⟨hmade, ⟨attempted, hexchanged, hattempted, hlog⟩, -⟩ :=
    Trial.attempts_coupled (s.transcribed_logged host log) t roster t.schedule.total 1 source [] log
      state hstart
  obtain ⟨entries, hentries, hcourse, hlength, hcut⟩ := Trial.course_of_attempts t
    (s.services host) roster t.schedule.total 1 (Nat.le_refl 1) (Nat.add_comm 1 _) source [] state
  have hservices : ∀ state, ((s.services host).isCancelled state).1 = false := hquiet
  have huncancelled := t.uncancelled_of_attempts hservices roster t.schedule.total 1
    (Nat.le_refl 1) (Nat.add_comm 1 _) source [] state
  rw [huncancelled, Bool.false_eq_true, false_iff, Nat.not_lt] at hcut
  rw [hentries, List.nil_append] at hexchanged
  rw [hmade] at hcourse hlength hcut
  obtain ⟨blocks, hwhole, hblocks⟩ := hcourse.exists_blocks
  rw [hwhole] at hexchanged
  obtain ⟨dialogues, hflatten, hdialogues⟩ := exists_dialogues hfollows hblocks hexchanged
  rw [hflatten] at hattempted hlog
  refine ⟨dialogues, ⟨?_, hcourse.map_index, hdialogues, hattempted⟩, hlog⟩
  have htotal : t.schedule.total = s.total.toNat := by rw [hfollows.schedule]
  have hpos := hfollows.total_pos
  rw [Trial.Run.processed]
  simp only
  omega

/-- The trial `t` makes all its attempts with a `roster`, whatever the servers answer. -/
theorem exists_run_logged {t : Trial} (hfollows : Trial.Follows s t)
    (hquiet : ∀ state, (host.isCancelled state).1 = false) (roster : Roster) (entropy : Keystream)
    (log : List Exchange) (state : σ) :
    ∃ dialogues,
      let ran := (t.run (s.services host.logged) roster entropy log state).1
      s.Conducts roster ran.1.1 dialogues ∧ ran.2 = log ++ sent dialogues.flatten := by
  unfold Trial.run
  simp only [Services.bind_apply, rest_logged, Services.pure_apply]
  exact exists_conducts_of_attempts hfollows hquiet roster (t.source entropy) log _

end Logged

end Settings

end RouterTrial
