import RouterTrial.Deck
import RouterTrial.Directory
import RouterTrial.Random.Keystream
import RouterTrial.Report.Ledger
import RouterTrial.Services
import RouterTrial.Settings

/-!
# Trials

A trial makes its attempts one after the other. An attempt draws a card from the deck of its window,
asks for a decision, and, if there is an account for the connector that was decided on, makes the
payment and reports its status. A connector with a rate of its own has the card drawn again from the
deck of that rate, except while payments are forced to fail.

Nothing that a service answers ends a trial: an attempt without a usable decision is skipped, and a
feedback that is not taken is only logged. Before each attempt the trial looks whether it has been
cancelled.
-/

namespace RouterTrial

/-! ### Trials -/

/-- All that a trial has to know. -/
structure Trial where
  schedule : Schedule
  /-- The decks of the windows, by their percentages. -/
  decks : Table Nat Deck
  /-- The decks of the connectors with a rate of their own. -/
  rateDecks : Table String Deck
  ranking : Ranking
  attributes : Attributes
  seed : Option Nat
  /-- Milliseconds. -/
  initialDelay : Nat
  /-- Milliseconds. -/
  pause : Nat

namespace Trial

/-- The `decks` with one for `percent`, if there was none. -/
def addDeck (size : Nat) (decks : Table Nat Deck) (percent : Nat) :
    Except ConfigurationFault (Table Nat Deck) :=
  if (decks.find? percent).isSome then .ok decks
  else (Deck.ofPercent? percent size).map (decks.insert percent)

/-- The `decks` of connectors with one for `rate`; a later rate takes the place of an earlier
one. -/
def addRateDeck (size : Nat) (decks : Table String Deck) (rate : String × Int) :
    Except ConfigurationFault (Table String Deck) :=
  (Deck.ofPercent? rate.2 size).map (decks.insert rate.1)

/-- The trial with the settings `s`. -/
def ofSettings? (s : Settings) : Except ConfigurationFault Trial := do
  s.validate
  let schedule ← Schedule.plan? s.total s.baseline
  let size := s.deckSize.toNat
  return {
    schedule
    decks := ← (schedule.windows.map (·.percent)).foldlM (addDeck size) .empty
    rateDecks := ← s.rates.foldlM (addRateDeck size) .empty
    ranking := s.ranking
    attributes := .standard
    seed := s.seed
    initialDelay := s.initialDelay
    pause := s.pause }

/-! ### Cards -/

section Cards

variable {G : Type} [WordSource G]

/-- The card that an attempt in the window `w` draws before there is a decision. -/
def firstCard (t : Trial) (w : Window) (g : G) : Card × G :=
  match t.decks.find? w.percent with
  | some deck => deck.draw g
  | none => (.fail, g)

/-- The deck of the rate that `connector` has of its own, unless payments are forced to fail. -/
def rateDeck? (t : Trial) (w : Window) (connector : String) : Option Deck :=
  if w.phase = .forcedFailure then none else t.rateDecks.find? connector

/-- The card that the payment is made with: the `first` one, unless `connector` has a deck of its
own. -/
def finalCard (t : Trial) (w : Window) (connector : String) (first : Card × G) : Card × G :=
  match t.rateDeck? w connector with
  | some deck => deck.draw first.2
  | none => first

end Cards

/-! ### Outcomes -/

/-- What an attempt comes to. -/
inductive Outcome where
  | recorded (record : Record)
  | skipped (skip : Skip)
  deriving Repr, DecidableEq

/-- An attempt that has been made. -/
structure Step where
  index : Nat
  outcome : Outcome
  log : Log
  deriving Repr, DecidableEq

/-- What a decision leads to. -/
inductive Placement where
  | skip (reason : SkipReason)
  | pay (connector account : String)
  deriving Repr, DecidableEq

/-- What the decision `d` leads to with the connectors of `roster`. -/
def place (roster : Roster) (d : Decision) : Placement :=
  match d.connector with
  | none => .skip .noDecision
  | some connector =>
    match roster.account? connector with
    | none => .skip (.unknownConnector connector)
    | some account => .pay connector account

/-- The record of a payment with `connector` in the window `w`. -/
def recordOf (id : AttemptId) (w : Window) (d : Decision) (connector : String) (card : Card)
    (answer : PaymentAnswer) : Record where
  id := id
  phase := w.phase
  card := card
  connector := connector
  processedBy := answer.processedBy connector
  status := .ofText answer.status
  errorMessage := answer.errorMessage
  approach := d.approach
  mode := d.mode

/-! ### Logging -/

/-- The number `index` and the identifier `id` of an attempt. -/
def tag (index : Nat) (id : AttemptId) : String := "[" ++ toString index ++ "] " ++ id.text

/-- The percentage of a `score`, cut off at the point. -/
def scorePercent (score : Float) : Nat := (score * 100).toUInt32.toNat

/-- The line with the scores of the decision `d`, if it has any. -/
def scoreLog (id : AttemptId) (d : Decision) : Log :=
  if d.scores.isEmpty then []
  else
    [⟨.debug, id.text ++ " priority scores: "
      ++ ", ".intercalate
          (d.scores.entries.map fun e => e.1 ++ "=" ++ toString (scorePercent e.2) ++ "%")⟩]

/-- The line of a skip. -/
def skipLog (index : Nat) (id : AttemptId) : SkipReason → Log
  | .noDecision => [⟨.warn, tag index id ++ " no connector decided, skipping"⟩]
  | .unknownConnector connector =>
    [⟨.warn,
      tag index id ++ " decided connector " ++ connector ++ " has no account id, skipping"⟩]

/-- The line of a `card` that was drawn again. -/
def redrawLog (id : AttemptId) (connector : String) (card : Card) : Option Deck → Log
  | none => []
  | some deck =>
    [⟨.debug, id.text ++ " redrawn from " ++ connector ++ " pool at " ++ toString deck.percent
      ++ "%: " ++ card.name⟩]

/-- The line of a feedback on `connector` that was not taken. -/
def feedbackLog (id : AttemptId) (connector : String) : Except Fault Acknowledgement → Log
  | .ok _ => []
  | .error fault =>
    [⟨.warn, id.text ++ " score update for " ++ connector ++ " failed: " ++ fault.message⟩]

/-- The line of the record `r`. -/
def recordLog (index : Nat) (r : Record) : Log :=
  [⟨.info, tag index r.id ++ " card=" ++ r.card.name ++ " connector=" ++ r.processedBy
    ++ " approach=" ++ r.approach.text ++ " mode=" ++ r.mode.name ++ " status=" ++ r.status.name
    ++ " error=" ++ r.errorMessage.getD "none"⟩]

/-- The line of the window `w`. -/
def windowLine (w : Window) : LogLine :=
  ⟨.info, "phase " ++ Text.padEnd 14 w.phase.name ++ " attempts " ++ toString (w.after + 1)
    ++ "..=" ++ toString w.through ++ " (" ++ toString w.length ++ " payments) at "
    ++ toString w.percent ++ "% success"⟩

/-- The line of a connector with a rate of its own, the one of `entry`. -/
def rateLine (entry : String × Deck) : LogLine :=
  ⟨.info, "connector " ++ entry.1 ++ " runs at " ++ toString entry.2.percent
    ++ "% success outside the forced-failure window"⟩

/-- What the trial `t` tells of itself before its first attempt. -/
def planLog (t : Trial) (roster : Roster) : Log :=
  ⟨.info, "simulating " ++ toString t.schedule.total ++ " payments across "
    ++ toString roster.size ++ " connectors (" ++ Text.quoteList roster.names ++ ")"⟩
    :: t.schedule.windows.map windowLine ++ t.rateDecks.entries.map rateLine

/-! ### Attempts -/

/-- The attempts that were made, whether the trial was cancelled behind them, and the source of
words that they have left. -/
structure Progress (G : Type) where
  steps : List Step
  cancelled : Bool
  source : G

section Attempts

variable {m : Type → Type} [Monad m] {G : Type} [WordSource G]

/-- Makes the attempt number `index`, which lies in the window `w`. -/
def attempt (t : Trial) (services : Services m) (roster : Roster) (index : Nat) (w : Window)
    (g : G) : m (Step × G) := do
  let id := AttemptId.ofIndex index
  let first := t.firstCard w g
  let decision ← services.decide ⟨id, roster.names, t.ranking, t.attributes⟩
  match place roster decision with
  | .skip reason =>
    return (⟨index, .skipped ⟨id, w.phase, reason⟩,
      scoreLog id decision ++ skipLog index id reason⟩, first.2)
  | .pay connector account =>
    let drawn := t.finalCard w connector first
    let answer ← services.execute ⟨id, connector, account, drawn.1⟩
    let record := recordOf id w decision connector drawn.1 answer
    let acknowledged ← services.report ⟨connector, record.status, id⟩
    return (⟨index, .recorded record,
      scoreLog id decision ++ redrawLog id connector drawn.1 (t.rateDeck? w connector)
        ++ feedbackLog id connector acknowledged ++ recordLog index record⟩, drawn.2)

/-- Makes so many attempts, the first one with this number, unless the trial is cancelled. -/
def attempts (t : Trial) (services : Services m) (roster : Roster) :
    Nat → Nat → G → m (Progress G)
  | 0, _, g => return ⟨[], false, g⟩
  | left + 1, index, g => do
    if ← services.isCancelled then return ⟨[], true, g⟩
    else
      match t.schedule.window? index with
      | none => t.attempts services roster left (index + 1) g
      | some w =>
        let made ← t.attempt services roster index w g
        services.rest (if left = 0 then 0 else t.pause)
        let more ← t.attempts services roster left (index + 1) made.2
        return { more with steps := made.1 :: more.steps }

end Attempts

/-! ### Runs -/

/-- A run of a trial. -/
structure Run where
  steps : List Step
  cancelled : Bool
  deriving Repr, DecidableEq

namespace Run

/-- The number of attempts that were made in the run `r`. -/
def processed (r : Run) : Nat := r.steps.length

/-- The record of an outcome. -/
def record? : Outcome → Option Record
  | .recorded record => some record
  | .skipped _ => none

/-- The skip of an outcome. -/
def skip? : Outcome → Option Skip
  | .recorded _ => none
  | .skipped skip => some skip

/-- The records and skips of the run `r`. -/
def ledger (r : Run) : Ledger where
  records := r.steps.filterMap fun step => record? step.outcome
  skips := r.steps.filterMap fun step => skip? step.outcome

theorem record?_eq_some_iff {outcome : Outcome} {record : Record} :
    record? outcome = some record ↔ outcome = .recorded record := by
  cases outcome <;> simp [record?]

theorem skip?_eq_some_iff {outcome : Outcome} {skip : Skip} :
    skip? outcome = some skip ↔ outcome = .skipped skip := by
  cases outcome <;> simp [skip?]

/-- The records of the run `r` are those of its steps. -/
theorem mem_records_ledger {r : Run} {record : Record} :
    record ∈ r.ledger.records ↔ ∃ step ∈ r.steps, step.outcome = .recorded record := by
  simp only [ledger, List.mem_filterMap, record?_eq_some_iff]

/-- The warning that the run `r` was cancelled. -/
def cancelLog (r : Run) : Log :=
  if r.cancelled then
    [⟨.warn, "cancellation requested, stopping before attempt " ++ toString (r.processed + 1)⟩]
  else []

/-- The last line of the run `r`. -/
def endLine (r : Run) : LogLine :=
  ⟨.info, "simulation finished: " ++ toString r.processed ++ " processed, "
    ++ toString r.ledger.records.length ++ " recorded, " ++ toString r.ledger.skips.length
    ++ " skipped"⟩

/-- The log of the run `r` from its first attempt on. -/
def log (r : Run) : Log := r.steps.flatMap (·.log) ++ r.cancelLog ++ [r.endLine]

end Run

/-- The source of words of a run: the keystream of the seed, or the one of `entropy`. -/
def source (t : Trial) (entropy : Keystream) : Keystream :=
  (t.seed.map Keystream.ofSeed).getD entropy

/-- Runs the trial `t` with the connectors of `roster`. -/
def run {m : Type → Type} [Monad m] (t : Trial) (services : Services m) (roster : Roster)
    (entropy : Keystream) : m (Run × Log) := do
  services.rest t.initialDelay
  let progress ← t.attempts services roster t.schedule.total 1 (t.source entropy)
  let run : Run := ⟨progress.steps, progress.cancelled⟩
  return (run, t.planLog roster ++ run.log)

end Trial

end RouterTrial
