import RouterTrial.Table
import RouterTrial.Text.Case

/-!
# Routing decisions

What the decision service is asked with and what it answers: the ranking that it is to use, the
attributes of a payment, and a decision, which names a connector or none. A decision says by which
approach it came about; one approach exploits what has been learnt, all others explore.
-/

namespace RouterTrial

/-! ### Rankings -/

/-- How the decision service ranks connectors. -/
inductive Ranking where
  /-- By their success rates. -/
  | successRate
  /-- By the priorities of the merchant. -/
  | priority
  /-- By the network of the card. -/
  | network
  deriving Repr, DecidableEq

namespace Ranking

/-- The name of a ranking in requests, which `ofName?` reads. -/
def name : Ranking → String
  | successRate => "SR_BASED_ROUTING"
  | priority => "PL_BASED_ROUTING"
  | network => "NTW_BASED_ROUTING"

/-- The ranking with this name. -/
def ofName? : String → Option Ranking
  | "SR_BASED_ROUTING" => some successRate
  | "PL_BASED_ROUTING" => some priority
  | "NTW_BASED_ROUTING" => some network
  | _ => none

/-- The ranking that `text` names, in any letter case and with white space around it. -/
def ofText? (text : String) : Option Ranking := ofName? (Text.upper (Text.trim text))

theorem ofName?_name (r : Ranking) : ofName? r.name = some r := by cases r <;> rfl

end Ranking

/-! ### Approaches -/

/-- What a decision does with what has been learnt. -/
inductive Mode where
  | exploitation
  | exploration
  deriving Repr, DecidableEq

namespace Mode

/-- The name of a mode in records, which `ofName?` reads. -/
def name : Mode → String
  | exploitation => "Exploitation"
  | exploration => "Exploration"

/-- The mode with this name. -/
def ofName? : String → Option Mode
  | "Exploitation" => some exploitation
  | "Exploration" => some exploration
  | _ => none

theorem ofName?_name (m : Mode) : ofName? m.name = some m := by cases m <;> rfl

end Mode

/-- The approach by which a decision came about, in the words of the decision service. -/
structure Approach where
  text : String
  deriving Repr, DecidableEq

namespace Approach

/-- The approach of a decision that names none. -/
def unknown : Approach := ⟨"UNKNOWN"⟩

/-- The approach that exploits. -/
def selection : Approach := ⟨"SR_SELECTION_V3_ROUTING"⟩

/-- The mode of the approach `a`: it exploits if it is the `selection`, and explores otherwise. -/
def mode (a : Approach) : Mode := if a = selection then .exploitation else .exploration

end Approach

/-! ### Decisions -/

/-- The answer of the decision service for one payment. -/
structure Decision where
  /-- The connector that is to process the payment. -/
  connector : Option String
  /-- The scores of the connectors that were ranked. -/
  scores : Table String Float
  approach : Approach

namespace Decision

/-- The decision for no connector, made when there is no answer, with the approach
`Approach.unknown`. -/
def undecided : Decision := ⟨none, .empty, .unknown⟩

/-- The mode of the decision `d`: that of its approach. -/
def mode (d : Decision) : Mode := d.approach.mode

end Decision

/-! ### Attributes -/

/-- What the decision service is told of a payment. -/
structure Attributes where
  amount : Float
  currency : String
  customer : String
  paymentType : String
  methodType : String
  method : String

/-- The attributes of the payments of a trial. -/
def Attributes.standard : Attributes :=
  ⟨100.5, "USD", "CUST12345", "ORDER_PAYMENT", "CARD", "VISA"⟩

end RouterTrial
