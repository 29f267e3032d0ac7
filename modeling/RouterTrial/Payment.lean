import RouterTrial.Attempt

/-!
# Payments

What a payment endpoint answers, and the answer of the stand-in that takes its place when it cannot
be reached: it follows the card.
-/

namespace RouterTrial

/-- The answer for a payment. -/
structure PaymentAnswer where
  paymentId : Option String
  status : String
  connector : Option String
  errorCode : Option String
  errorMessage : Option String
  /-- The answer is the stand-in's. -/
  simulated : Bool
  deriving Repr, DecidableEq

/-- The message with which the stand-in declines. -/
def standInDecline : String := "Simulated decline for test card"

/-- The answer of the stand-in for a card; the `token` tells its payments apart. -/
def PaymentAnswer.standIn (token : String) : Card → PaymentAnswer
  | .success => ⟨some ("sim_" ++ token), "succeeded", some standInConnector, none, none, true⟩
  | .fail =>
    ⟨some ("sim_" ++ token), "failed", some standInConnector, some "SIMULATED_DECLINE",
      some standInDecline, true⟩

/-- The connector that has processed the payment of `answer`, which was sent to `connector`. -/
def PaymentAnswer.processedBy (connector : String) (answer : PaymentAnswer) : String :=
  if answer.simulated then standInConnector
  else (answer.connector.filter (! ·.isEmpty)).getD connector

end RouterTrial
