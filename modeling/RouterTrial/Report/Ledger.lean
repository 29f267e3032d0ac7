import RouterTrial.Attempt.Json
import RouterTrial.Log
import RouterTrial.Report

/-!
# Ledgers

The records and skips of a trial as they come in, and the report on them. A summarizer may be asked
to write about the records; if it fails, the report has no narrative and is otherwise the same.
-/

namespace RouterTrial

/-! ### Narratives -/

/-- What a summarizer is asked to do, before the records. -/
def promptHead : String :=
  "You are an analyst reviewing a payment routing simulation.\n"
    ++ "Each entry has the payment id, card type, selected connector, status, error message "
    ++ "and the routing approach reported by the decision service.\n"
    ++ "Produce a summary report with:\n" ++ "- Total payments\n"
    ++ "- Number of successes and failures\n" ++ "- Success percentage per connector\n"
    ++ "- Most common failure reasons\n" ++ "- Ratio of exploitation vs exploration\n"
    ++ "- Suggestions to improve routing or connector reliability\n"
    ++ "Respond in markdown.\n\n" ++ "Logs:\n"

/-- What a summarizer is asked to do with `records`. -/
def prompt (records : List Record) : String :=
  promptHead ++ (Json.array (records.map Record.toJson)).pretty ++ "\n"

/-- Why there is no narrative. -/
inductive NarrativeFault where
  /-- There was no answer, or one that is no JSON. -/
  | exchange (text : String)
  /-- The answer had another status than one of success. -/
  | refused (status : Nat) (excerpt : String)
  /-- The answer holds no text. -/
  | noText
  deriving Repr, DecidableEq

/-- The wording of the fault. -/
def NarrativeFault.text : NarrativeFault → String
  | exchange text => text
  | refused status excerpt => "summarizer returned HTTP " ++ toString status ++ ": " ++ excerpt
  | noText => "summarizer response has no candidate text"

/-- Writes about records, or fails to. -/
abbrev Summarizer (m : Type → Type) := List Record → m (Except NarrativeFault String)

/-! ### Ledgers -/

/-- The records and skips of a trial, each in the order of the attempts. -/
structure Ledger where
  records : List Record
  skips : List Skip
  deriving Repr, DecidableEq

namespace Ledger

/-- The ledger of no attempts, without `records` and `skips`. -/
def empty : Ledger := ⟨[], []⟩

/-- The ledger `l` with the record `r` more. -/
def record (l : Ledger) (r : Record) : Ledger := { l with records := l.records ++ [r] }

/-- The ledger `l` with the skip `s` more. -/
def skip (l : Ledger) (s : Skip) : Ledger := { l with skips := l.skips ++ [s] }

/-- The report on the ledger `l`, without a narrative. -/
def report (l : Ledger) (generatedAt : Instant) : Report :=
  Report.ofRecords l.records l.skips.length generatedAt

/-- The report `r` with what the summarizer answered. -/
def narrate (r : Report) : Except NarrativeFault String → Report × Log
  | .ok text => ({ r with narrative := some text }, [])
  | .error fault =>
    (r, [⟨.warn, "summarizer failed, numeric report only: " ++ fault.text⟩])

/-- The report on the ledger `l`, with a narrative if there is a `summarizer` that gives one, and
what is logged on the way to it. -/
def reportWith {m : Type → Type} [Monad m] (l : Ledger) (generatedAt : Instant)
    (summarizer : Option (Summarizer m)) : m (Report × Log) :=
  match summarizer with
  | none => pure (l.report generatedAt, [])
  | some summarize => do return narrate (l.report generatedAt) (← summarize l.records)

end Ledger

end RouterTrial
