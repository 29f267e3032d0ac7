import RouterTrial.Proofs.Roster
import RouterTrial.Proofs.Trial.Course
import RouterTrial.Proofs.Trial.Decks

/-!
# The conversation of a run with its services

The calls of a run fall into blocks, one for each attempt. A block starts with the question for a
decision. It goes on with the payment and the feedback on it if the decision names a connector that
there is an account for, and ends there otherwise. What the run puts down of an attempt agrees with
its block, and so the feedback that was given is that of the records.

A block (`Block`) says of an attempt what is asked, paid, told and put down, in terms of the
settings and the roster only.
-/

namespace RouterTrial

/-- The feedback on the record `r`. -/
def Record.feedback (r : Record) : Feedback := ⟨r.connector, r.status, r.id⟩

namespace Trial

/-! ### Blocks -/

/-- The `record` of a payment says what was decided, paid and answered. -/
structure Matches (order : PaymentOrder) (decision : Decision) (answer : PaymentAnswer)
    (record : Record) : Prop where
  id : record.id = order.id
  connector : record.connector = order.connector
  card : record.card = order.card
  status : record.status = .ofText answer.status
  errorMessage : record.errorMessage = answer.errorMessage
  approach : record.approach = decision.approach
  mode : record.mode = .exploitation ↔ decision.approach.text = "SR_SELECTION_V3_ROUTING"

/-- The calls of the attempt number `index` with their answers, and what the attempt comes to. -/
inductive Block (settings : Settings) (roster : Roster) (index : Nat) :
    Transcript → Outcome → Prop
  | undecided {decision : Decision} {phase : Phase} (hnone : decision.connector = none) :
      Block settings roster index
        [.decided ⟨.ofIndex index, roster.names, settings.ranking, .standard⟩ decision]
        (.skipped ⟨.ofIndex index, phase, .noDecision⟩)
  | unknown {decision : Decision} {connector : String} {phase : Phase}
      (hconnector : decision.connector = some connector)
      (haccount : roster.account? connector = none) :
      Block settings roster index
        [.decided ⟨.ofIndex index, roster.names, settings.ranking, .standard⟩ decision]
        (.skipped ⟨.ofIndex index, phase, .unknownConnector connector⟩)
  | paid {decision : Decision} {connector account : String} {card : Card} {answer : PaymentAnswer}
      {acknowledged : Except Fault Acknowledgement} {record : Record}
      (hconnector : decision.connector = some connector)
      (haccount : roster.account? connector = some account)
      (hrecord : Matches ⟨.ofIndex index, connector, account, card⟩ decision answer record) :
      Block settings roster index
        [.decided ⟨.ofIndex index, roster.names, settings.ranking, .standard⟩ decision,
          .executed ⟨.ofIndex index, connector, account, card⟩ answer,
          .reported ⟨connector, .ofText answer.status, .ofIndex index⟩ acknowledged]
        (.recorded record)

/-- The `transcript` of the run `r` is a block for each of its attempts. -/
structure Run.Conversation (settings : Settings) (roster : Roster) (transcript : Transcript)
    (r : Run) (blocks : List Transcript) : Prop where
  whole : transcript = blocks.flatten
  numbers : r.steps.map (·.index) = List.range' 1 r.processed
  /-- There is one of `blocks` for each attempt, in order. -/
  block : List.Forall₂ (fun block step => Block settings roster step.index block step.outcome)
    blocks r.steps
  /-- There are connectors to decide on, no one of them twice. -/
  eligible : roster.names ≠ [] ∧ roster.names.Nodup
  feedbacks : transcript.feedbacks = r.ledger.records.map Record.feedback

/-! ### The blocks of a course -/

section Course

variable {G : Type} [WordSource G] {settings : Settings} {t : Trial} {roster : Roster}
  {index : Nat} {g g' : G} {transcript : Transcript}

private theorem matches_recordOf (index : Nat) (w : Window) (decision : Decision)
    (connector account : String) (card : Card) (answer : PaymentAnswer) :
    Matches ⟨.ofIndex index, connector, account, card⟩ decision answer
      (recordOf (.ofIndex index) w decision connector card answer) where
  id := by rw [recordOf]
  connector := by rw [recordOf]
  card := by rw [recordOf]
  status := by rw [recordOf]
  errorMessage := by rw [recordOf]
  approach := by rw [recordOf]
  mode := by
    rw [recordOf, Decision.mode, Approach.mode, Approach.selection]
    obtain ⟨text⟩ := decision.approach
    simp only [Approach.mk.injEq, ite_eq_left_iff, reduceCtorEq, imp_false, not_not]

private theorem feedback_recordOf (id : AttemptId) (w : Window) (decision : Decision)
    (connector : String) (card : Card) (answer : PaymentAnswer) :
    (recordOf id w decision connector card answer).feedback
      = ⟨connector, .ofText answer.status, id⟩ := by
  rw [Record.feedback, recordOf]

/-- The entries of an attempt are a `Block`. -/
theorem Attempted.block (hfollows : Follows settings t) {outcome : Outcome}
    (h : Attempted t roster index g transcript outcome g') :
    Block settings roster index transcript outcome := by
  have hquery : t.query roster index
      = ⟨.ofIndex index, roster.names, settings.ranking, .standard⟩ := by
    rw [query, hfollows.ranking, hfollows.attributes]
  cases h with
  | skipped _ hplace =>
    rw [hquery]
    rcases reason_of_place_eq_skip hplace with ⟨hnone, rfl⟩ | ⟨_, hconnector, haccount, rfl⟩
    · exact .undecided hnone
    · exact .unknown hconnector haccount
  | paid _ hplace =>
    rw [hquery]
    obtain ⟨hconnector, haccount⟩ := connector_of_place_eq_pay hplace
    exact .paid hconnector haccount (matches_recordOf _ _ _ _ _ _ _)

/-- The feedback of an attempt is that of its record, if there is one (`Run.record?`). -/
theorem Attempted.feedbacks {outcome : Outcome}
    (h : Attempted t roster index g transcript outcome g') :
    transcript.feedbacks
      = ((Run.record? outcome).map Record.feedback).toList := by
  cases h with
  | skipped _ _ => rfl
  | paid _ _ =>
    rw [Run.record?, Option.map_some, feedback_recordOf]
    rfl

end Course

end Trial

/-! ### Runs of sessions -/

/-- **Conversation.** The first run of a session succeeds, and its calls are a `Block` for each of
its attempts, for all settings that are accepted, all services and every moment of a
cancellation. -/
theorem Session.exists_conversation {settings : Settings} {session : Session}
    (hsession : Session.ofSettings? settings = .ok session) {σ : Type}
    (services : Services (StateM σ)) {directory : Directory (StateM σ)} (entropy : Keystream)
    {s : σ} {roster : Roster} (hresolve : (directory.resolve s).1.1 = .ok roster) :
    ∃ (run : Trial.Run) (blocks : List Transcript),
      (session.run services directory entropy s).1.result = .ok run ∧
      (session.run services.traced (directory.lift StateT.lift) entropy #[] s).1.2.toList
        = blocks.flatten.map Entry.call ∧
      run.Conversation settings roster (session.watch services directory entropy s).2 blocks := by
  obtain ⟨htrial, hidle⟩ := Session.ofSettings?_eq_ok hsession
  have hfollows := Trial.follows_of_ofSettings? htrial
  obtain ⟨run, g, hresult, hcourse, -, -⟩ :=
    Session.course_of_watch services entropy hidle hresolve
  obtain ⟨blocks, hwhole, hblocks⟩ := hcourse.exists_blocks
  refine ⟨run, blocks, ?_, ?_, hwhole, hcourse.map_index,
    hblocks.imp fun _ _ ⟨_, _, hmade⟩ => hmade.block hfollows,
    Directory.names_of_resolve hresolve, ?_⟩
  · rw [← Session.watch_fst]
    exact hresult
  · rw [Session.calls_of_watch, hwhole]
  · rw [Trial.Run.ledger, List.map_filterMap]
    exact hcourse.filterMap_eq Entry.feedback?
      (fun outcome => (Trial.Run.record? outcome).map Record.feedback)
      fun hmade => hmade.feedbacks

/-- Conversation of a trial of which no feedback is taken. -/
theorem Session.exists_conversation_of_refused :
    ∃ (session : Session) (run : Trial.Run) (blocks : List Transcript),
      Session.ofSettings? .four = .ok session ∧
      run.Conversation .four (.ofList [("a", "1"), ("b", "2")])
        (session.watch (.charging 4 "b") .two (.ofSeed 0) 0).2 blocks := by
  obtain ⟨session, hsession⟩ : ∃ session, Session.ofSettings? .four = .ok session := ⟨_, rfl⟩
  have hresolve : (Directory.two.resolve 0).1.1 = .ok (.ofList [("a", "1"), ("b", "2")]) := rfl
  obtain ⟨run, blocks, -, -, hconversation⟩ :=
    Session.exists_conversation hsession (.charging 4 "b") (.ofSeed 0) hresolve
  exact ⟨session, run, blocks, hsession, hconversation⟩

end RouterTrial
