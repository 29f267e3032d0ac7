import RouterTrial.Attempt
import RouterTrial.Clock
import RouterTrial.Number.Percentage

/-!
# Reports

The counts over the records of a trial: in all, by status, by connector and by phase, and the most
frequent error messages. `Report.ofRecords` counts them; a report as such is only a table of
numbers, which need not belong to any records.
-/

namespace RouterTrial

/-! ### Counts -/

/-- The counts of a connector. -/
structure ConnectorCounts where
  attempts : Nat
  successes : Nat
  failures : Nat
  successPercent : Nat
  deriving Repr, DecidableEq

/-- The counts of a phase. -/
structure PhaseCounts where
  attempts : Nat
  successes : Nat
  exploitation : Nat
  exploration : Nat
  deriving Repr, DecidableEq

/-- How often an error message occurs. -/
structure ErrorCount where
  message : String
  count : Nat
  deriving Repr, DecidableEq

/-- The counts over a trial. -/
structure Report where
  attempts : Nat
  successes : Nat
  failures : Nat
  skipped : Nat
  /-- The payments that the stand-in made, as `Record.isSimulated` tells them. -/
  simulated : Nat
  exploitation : Nat
  exploration : Nat
  byStatus : Table Status Nat
  perConnector : Table String ConnectorCounts
  perPhase : Table Phase PhaseCounts
  /-- The most frequent error messages. -/
  topErrors : List ErrorCount
  /-- What a summarizer has written about the trial. -/
  narrative : Option String
  generatedAt : Instant
  deriving Repr, DecidableEq

/-! ### Counting -/

/-- What is counted over a group of records. -/
structure Tally where
  attempts : Nat
  successes : Nat
  exploitation : Nat
  deriving Repr, DecidableEq

namespace Tally

/-- The tally of no records. -/
def zero : Tally := ⟨0, 0, 0⟩

/-- The tally `t` with the record `r` more. -/
def add (t : Tally) (r : Record) : Tally where
  attempts := t.attempts + 1
  successes := t.successes + if r.status.isSuccess then 1 else 0
  exploitation := t.exploitation + if r.mode = .exploitation then 1 else 0

/-- The tallies of `records` by a `key`. -/
def groupBy {κ : Type} [Ord κ] (key : Record → κ) (records : List Record) : Table κ Tally :=
  records.foldl (fun t r => t.alter (key r) fun old => (old.getD zero).add r) .empty

/-- The counts of a connector with the tally `t`. -/
def forConnector (t : Tally) : ConnectorCounts :=
  ⟨t.attempts, t.successes, t.attempts - t.successes, Number.percentage t.successes t.attempts⟩

/-- The counts of a phase with the tally `t`. -/
def forPhase (t : Tally) : PhaseCounts :=
  ⟨t.attempts, t.successes, t.exploitation, t.attempts - t.exploitation⟩

end Tally

/-- How often each of `keys` occurs. -/
def countKeys {κ : Type} [Ord κ] (keys : List κ) : Table κ Nat :=
  keys.foldl (fun t k => t.alter k fun old => old.getD 0 + 1) .empty

/-! ### Error messages -/

/-- The error messages of `records`, trimmed, as far as something is left of them. -/
def errorMessages (records : List Record) : List String :=
  ((records.filterMap (·.errorMessage)).map Text.trim).filter (! ·.isEmpty)

/-- The count `x` comes before `y`: it is the larger one, or of two equal ones the one with the
smaller message. -/
def ErrorCount.precedes (x y : ErrorCount) : Bool :=
  y.count < x.count || (x.count == y.count && (compare x.message y.message).isLE)

/-- The number of error messages that a report names. -/
def maxTopErrors : Nat := 5

/-- The most frequent of `messages`, at most `maxTopErrors` of them. -/
def topErrors (messages : List String) : List ErrorCount :=
  let counts := (countKeys messages).entries.map fun e => (⟨e.1, e.2⟩ : ErrorCount)
  (counts.mergeSort ErrorCount.precedes).take maxTopErrors

/-! ### Reports of records -/

/-- The report of the `records` of a trial that `skipped` so many attempts. -/
def Report.ofRecords (records : List Record) (skipped : Nat) (generatedAt : Instant) : Report :=
  let successes := records.countP (·.status.isSuccess)
  let exploitation := records.countP (·.mode = .exploitation)
  { attempts := records.length
    successes
    failures := records.length - successes
    skipped
    simulated := records.countP (·.isSimulated)
    exploitation
    exploration := records.length - exploitation
    byStatus := countKeys (records.map (·.status))
    perConnector := (Tally.groupBy (·.connector) records).mapValues Tally.forConnector
    perPhase := (Tally.groupBy (·.phase) records).mapValues Tally.forPhase
    topErrors := RouterTrial.topErrors (errorMessages records)
    narrative := none
    generatedAt }

end RouterTrial
