import RouterTrial.Attempt.Json
import RouterTrial.Payment

/-!
# Payments as JSON

The answer for a payment. It needs a status; everything else may be missing, and what else it holds
is passed over.
-/

namespace RouterTrial

open Json (Raw)

namespace PaymentAnswer

/-- The fields of a `PaymentAnswer` in order. -/
def fieldNames : List String :=
  ["payment_id", "status", "connector", "error_code", "error_message"]

/-- The JSON form of the answer `a`. It does not say whether it is the stand-in's. -/
def toJson (a : PaymentAnswer) : Json :=
  .object
    [("payment_id", .ofOption a.paymentId), ("status", .string a.status),
      ("connector", .ofOption a.connector), ("error_code", .ofOption a.errorCode),
      ("error_message", .ofOption a.errorMessage)]

/-- The answer that `v` is the JSON form of, which is never the stand-in's. -/
def ofRaw? (v : Raw) : Option PaymentAnswer := do
  let fields ← v.fields? fieldNames
  return {
    paymentId := ← fields.optional "payment_id" Raw.string?
    status := ← fields.required "status" Raw.string?
    connector := ← fields.optional "connector" Raw.string?
    errorCode := ← fields.optional "error_code" Raw.string?
    errorMessage := ← fields.optional "error_message" Raw.string?
    simulated := false }

end PaymentAnswer

end RouterTrial
