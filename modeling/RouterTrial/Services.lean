import RouterTrial.Fault
import RouterTrial.Payment
import RouterTrial.Routing

/-!
# Services

The three services that a trial calls: one decides on connectors, one executes payments, and one
takes feedback on them. They act in a monad, so that they may be anything from functions of a state
to exchanges over a network. `Services.traced` notes every call.
-/

namespace RouterTrial

/-! ### Calls -/

/-- What the decision service is asked. -/
structure DecisionQuery where
  id : AttemptId
  /-- The connectors that it may decide on. -/
  eligible : List String
  ranking : Ranking
  attributes : Attributes

/-- The order for a payment. -/
structure PaymentOrder where
  id : AttemptId
  connector : String
  /-- The account that the payment goes to. -/
  account : String
  card : Card
  deriving Repr, DecidableEq

/-- What the decision service is told of a payment. -/
structure Feedback where
  connector : String
  status : Status
  id : AttemptId
  deriving Repr, DecidableEq

/-- The answer to a feedback that was taken. -/
structure Acknowledgement where
  status : Nat
  body : String
  deriving Repr, DecidableEq

/-- A call of a service. -/
inductive Call where
  | decide (query : DecisionQuery)
  | execute (order : PaymentOrder)
  | report (feedback : Feedback)

/-! ### Services -/

/-- The services of a trial, and what else it needs from its surroundings. -/
structure Services (m : Type → Type) where
  decide : DecisionQuery → m Decision
  execute : PaymentOrder → m PaymentAnswer
  report : Feedback → m (Except Fault Acknowledgement)
  /-- Lets so many milliseconds pass. -/
  wait : Nat → m Unit
  /-- Somebody has asked the trial to stop. -/
  isCancelled : m Bool

namespace Services

variable {m : Type → Type} [Monad m]

/-- Lets `duration` milliseconds pass, if there are any. -/
def rest (s : Services m) (duration : Nat) : m Unit :=
  if duration = 0 then pure () else s.wait duration

/-- The `action`, for which `call` is noted before it is done. -/
def noting {α : Type} (call : Call) (action : m α) : StateT (Array Call) m α :=
  fun calls => do return (← action, calls.push call)

/-- The services `s` with every call noted in order. -/
def traced (s : Services m) : Services (StateT (Array Call) m) where
  decide query := noting (.decide query) (s.decide query)
  execute order := noting (.execute order) (s.execute order)
  report feedback := noting (.report feedback) (s.report feedback)
  wait duration := StateT.lift (s.wait duration)
  isCancelled := StateT.lift s.isCancelled

end Services

end RouterTrial
