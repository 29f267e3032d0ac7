import RouterTrial.Exchange.Message
import RouterTrial.Json.Reader
import RouterTrial.Report.Ledger

/-!
# The summary service

The exchange in which a language model writes about the records of a trial. The text is taken from
the first part of the first candidate.
-/

namespace RouterTrial

/-- Where summaries are written. -/
structure SummaryService where
  url : String
  /-- Milliseconds. -/
  timeout : Nat
  deriving Repr, DecidableEq

namespace SummaryService

/-- The request of the service `s` for a summary of `records`. -/
def request (s : SummaryService) (records : List Record) : Request :=
  .post s.url [Request.acceptAll]
    (.object
      [("contents",
        .array
          [.object [("parts", .array [.object [("text", .string (prompt records))]])]])])
    s.timeout

/-- The text of the first part of the first candidate of `v`. -/
def candidateText? (v : Json) : Option String := do
  let candidate ← (← v.member? "candidates").item? 0
  let part ← (← (← candidate.member? "content").member? "parts").item? 0
  (← part.member? "text").string?

/-- The summary of an answer, or the `NarrativeFault` that keeps it from having one. -/
def readSummary : Answer → Except NarrativeFault String
  | .failed => .error (.exchange "no reply")
  | .reply r =>
    if r.isSuccess then
      match r.exactText?.bind Json.ofText? with
      | none => .error (.exchange "summary is malformed")
      | some v =>
        match candidateText? v with
        | none => .error .noText
        | some text => .ok text
    else .error (.refused r.status (Text.clip excerptLength r.text))

/-- Asks the service `s` for a summary over the network `n`. -/
def summarize {m : Type → Type} [Monad m] (s : SummaryService) (n : Network m) : Summarizer m :=
  fun records => readSummary <$> n.send (s.request records)

end SummaryService

end RouterTrial
