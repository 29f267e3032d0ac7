import RouterTrial.Exchange.Message
import RouterTrial.Routing.Json
import RouterTrial.Services.Json

/-!
# The decision service

The two exchanges with the decision service. Asking for a decision never fails: whatever goes wrong,
the attempt is undecided. Feedback that is not taken is a fault, which the caller may pass over.
-/

namespace RouterTrial

/-- Where the decision service is and what it is told in every request. -/
structure DecisionService where
  url : String
  merchant : String
  elimination : Bool
  /-- Milliseconds. -/
  timeout : Nat
  deriving Repr, DecidableEq

namespace DecisionService

/-! ### Decisions -/

/-- The request for a decision on the query `q`. -/
def queryRequest (s : DecisionService) (q : DecisionQuery) : Request :=
  .post (Request.below s.url "/decide-gateway")
    [Request.acceptAll, ("x-merchantid", s.merchant)] (q.toJson s.merchant s.elimination) s.timeout

/-- The decision of an answer, or the `Fault` that keeps it from being one. -/
def readDecision? : Answer → Except Fault Decision
  | .failed => .error .unreachable
  | .reply r =>
    match r.text? with
    | none => .error .brokenBody
    | some text =>
      if r.isSuccess then (Decision.ofText? text).mapError DecisionFault.fault
      else .error (.transport (r.statusText text))

/-- The decision of the answer `a`; an answer that is none decides nothing. -/
def readDecision (a : Answer) : Decision :=
  match readDecision? a with
  | .ok d => d
  | .error _ => .undecided

/-! ### Feedback -/

/-- The request that reports the feedback `f`. -/
def feedbackRequest (s : DecisionService) (f : Feedback) : Request :=
  .post (Request.below s.url "/update-gateway-score") [Request.acceptAll] (f.toJson s.merchant)
    s.timeout

/-- The acknowledgement of an answer, or the `Fault` that keeps it from being one. -/
def readAcknowledgement : Answer → Except Fault Acknowledgement
  | .failed => .error .unreachable
  | .reply r =>
    let text := Text.trim r.text
    if r.isSuccess then .ok ⟨r.status, text⟩ else .error (.transport (r.statusText text))

/-! ### Exchanges -/

variable {m : Type → Type} [Monad m]

/-- Asks for a decision on the query `q` over the network `n`. -/
def decide (s : DecisionService) (n : Network m) (q : DecisionQuery) : m Decision :=
  readDecision <$> n.send (s.queryRequest q)

/-- Reports the feedback `f` over the network `n`. -/
def report (s : DecisionService) (n : Network m) (f : Feedback) :
    m (Except Fault Acknowledgement) :=
  readAcknowledgement <$> n.send (s.feedbackRequest f)

end DecisionService

end RouterTrial
