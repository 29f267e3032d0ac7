import RouterTrial.Exchange.Message
import RouterTrial.Payment.Json
import RouterTrial.Services.Json

/-!
# The payment service

The exchange that executes a payment. There is always an answer: the service's own, one made up from
a status that is no success, or, if there is nothing that can be read, the stand-in's.
-/

namespace RouterTrial

/-- Where payments are executed and under which profile. -/
structure PaymentService where
  url : String
  key : String
  profile : String
  /-- Milliseconds. -/
  timeout : Nat
  deriving Repr, DecidableEq

namespace PaymentService

/-- The request of the service `s` for the payment that the order `o` is about. -/
def orderRequest (s : PaymentService) (o : PaymentOrder) : Request :=
  .post (Request.below s.url "/payments")
    [("accept", "application/json"), ("api-key", s.key)] (o.toJson s.profile) s.timeout

/-- The answer for a payment with the `connector` that the service has refused to execute with the
reply `r`. -/
def refusal (connector : String) (r : Reply) : PaymentAnswer where
  paymentId := none
  status := "failed"
  connector := some connector
  errorCode := some ("HTTP_" ++ toString r.status)
  errorMessage := some (Text.clip excerptLength r.text)
  simulated := false

/-- The answer for the order `o`; the stand-in's payment has the `token`. -/
def readAnswer (token : String) (o : PaymentOrder) : Answer → PaymentAnswer
  | .failed => .standIn token o.card
  | .reply r =>
    if r.isSuccess then (r.tree?.bind PaymentAnswer.ofRaw?).getD (.standIn token o.card)
    else refusal o.connector r

/-- Executes the order `o` over the network `n`. -/
def execute {m : Type → Type} [Monad m] (s : PaymentService) (n : Network m) (token : m String)
    (o : PaymentOrder) : m PaymentAnswer := do
  let answer ← n.send (s.orderRequest o)
  return readAnswer (← token) o answer

end PaymentService

end RouterTrial
