import RouterTrial.Attempt.Json
import RouterTrial.Fault

/-!
# Decisions as JSON

The answer of the decision service, read from a JSON text, and the attributes of a payment.

An answer is read in two steps: the whole text as a value, which has to be an object, and then its
three members, each of which may be missing or null. Scores are kept between zero and one, and a
connector without a visible name counts as none.
-/

namespace RouterTrial

open Json (Raw)

/-! ### Reading decisions -/

/-- Why a text is no decision. -/
inductive DecisionFault where
  /-- The text is no JSON, or a member has the wrong kind of value. -/
  | malformed
  | notAnObject
  /-- The score of `connector` is not a finite number. -/
  | nonFinite (connector : String)
  deriving Repr, DecidableEq

namespace DecisionFault

/-- The wording of the fault. -/
def text : DecisionFault → String
  | malformed => "decision is malformed"
  | notAnObject => "decide-gateway response is not a JSON object"
  | nonFinite connector => "non-finite priority score for " ++ connector

/-- The `Fault` with this `cause`. -/
def fault (cause : DecisionFault) : Fault := .decode cause.text

end DecisionFault

namespace Decision

/-- The number `x` itself between zero and one, otherwise the nearer of the two. -/
def clampScore (x : Float) : Float := if x < 0 then 0 else if 1 < x then 1 else x

/-- The table of `scores`, unless one of them is not finite. -/
def scores? (scores : List (String × Float)) : Except DecisionFault (Table String Float) :=
  match scores.find? fun s => !s.2.isFinite with
  | some (connector, _) => .error (.nonFinite connector)
  | none => .ok (Table.ofList (scores.map fun s => (s.1, clampScore s.2)))

/-- The decision that the members of the JSON object `v` write. -/
def ofMembers? (v : Json) : Except DecisionFault Decision :=
  match v.optional? "decided_gateway" Json.string?,
    v.optional? "gateway_priority_map" Json.numbers?,
    v.optional? "routing_approach" Json.string? with
  | some connector, some scores, some approach =>
    (scores? (scores.getD [])).map fun scores =>
      { connector := connector.filter (!Text.isBlankText ·)
        scores
        approach := (approach.map Approach.mk).getD .unknown }
  | _, _, _ => .error .malformed

/-- The decision that a JSON value writes. -/
def ofJson? : Json → Except DecisionFault Decision
  | .object members => ofMembers? (.object members)
  | _ => .error .notAnObject

/-- The decision that `text` writes, or the `DecisionFault` that keeps it from being one. -/
def ofText? (text : String) : Except DecisionFault Decision :=
  match Json.ofText? text with
  | none => .error .malformed
  | some v => ofJson? v

end Decision

/-! ### Attributes -/

namespace Attributes

/-- The fields of `Attributes` in order. -/
def fieldNames : List String :=
  ["amount", "currency", "customer_id", "payment_type", "payment_method_type", "payment_method"]

/-- The JSON form of the attributes `a`. -/
def toJson (a : Attributes) : Json :=
  .object
    [("amount", .float a.amount), ("currency", .string a.currency),
      ("customer_id", .string a.customer), ("payment_type", .string a.paymentType),
      ("payment_method_type", .string a.methodType), ("payment_method", .string a.method)]

/-- The attributes that `v` is the JSON form of, if there are any. -/
def ofRaw? (v : Raw) : Option Attributes := do
  let fields ← v.fields? fieldNames
  return {
    amount := ← fields.required "amount" Raw.float?
    currency := ← fields.required "currency" Raw.string?
    customer := ← fields.required "customer_id" Raw.string?
    paymentType := ← fields.required "payment_type" Raw.string?
    methodType := ← fields.required "payment_method_type" Raw.string?
    method := ← fields.required "payment_method" Raw.string? }

end Attributes

end RouterTrial
