import RouterTrial.Card
import RouterTrial.Routing
import RouterTrial.Schedule
import RouterTrial.Status
import RouterTrial.Text.Column

/-!
# Attempts

What remains of an attempt: the record of a payment that was made, or the note that the attempt was
skipped and why.
-/

namespace RouterTrial

/-- The identifier of an attempt. -/
structure AttemptId where
  text : String
  deriving Repr, DecidableEq

/-- The identifier of attempt number `index`: `PAY_SIM_` and the number in five digits at least. -/
def AttemptId.ofIndex (index : Nat) : AttemptId := ⟨"PAY_SIM_" ++ Text.padZeros 5 index⟩

/-- The name that a payment made by the stand-in for the endpoint is recorded under. -/
def standInConnector : String := "simulated_connector"

/-- The record of a payment. -/
structure Record where
  id : AttemptId
  phase : Phase
  card : Card
  /-- The connector that was decided on, for which the payment was ordered. -/
  connector : String
  /-- The connector that the endpoint says has processed the payment. -/
  processedBy : String
  status : Status
  errorMessage : Option String
  approach : Approach
  mode : Mode
  deriving Repr, DecidableEq

/-- The record `r` is counted as a payment of the stand-in: it names `standInConnector`. -/
def Record.isSimulated (r : Record) : Bool := r.processedBy == standInConnector

/-- Why an attempt was skipped. -/
inductive SkipReason where
  | noDecision
  /-- The `connector` that was decided on has no account. -/
  | unknownConnector (connector : String)
  deriving Repr, DecidableEq

/-- The note of an attempt without a payment. -/
structure Skip where
  id : AttemptId
  phase : Phase
  reason : SkipReason
  deriving Repr, DecidableEq

end RouterTrial
