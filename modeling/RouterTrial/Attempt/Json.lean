import RouterTrial.Attempt
import RouterTrial.Json.Fields
import RouterTrial.Json.Printer
import RouterTrial.Json.Reader

/-!
# Attempts as JSON

The JSON forms of records and skips, and how they are read back. A choice is written as its name; a
record has its fields in a fixed order; the reason of a skip is an object with a kind and, where it
names one, a connector.
-/

namespace RouterTrial

open Json (Raw)

/-! ### Names -/

/-- The JSON form of the card `c`: its `Card.name`. -/
def Card.toJson (c : Card) : Json := .string c.name

/-- The card whose name `v` is, if there is one. -/
def Card.ofRaw? (v : Raw) : Option Card := v.named? ofName?

/-- The JSON form of the status `s`: its `Status.name`. -/
def Status.toJson (s : Status) : Json := .string s.name

/-- The status whose name `v` is, if there is one. -/
def Status.ofRaw? (v : Raw) : Option Status := v.named? ofName?

/-- The JSON form of the phase `p`: its `Phase.name`. -/
def Phase.toJson (p : Phase) : Json := .string p.name

/-- The phase whose name `v` is, if there is one. -/
def Phase.ofRaw? (v : Raw) : Option Phase := v.named? ofName?

/-- The JSON form of the ranking `r`: its `Ranking.name`. -/
def Ranking.toJson (r : Ranking) : Json := .string r.name

/-- The ranking whose name `v` is, if there is one. -/
def Ranking.ofRaw? (v : Raw) : Option Ranking := v.named? ofName?

/-- The JSON form of the mode `m`: its `Mode.name`. -/
def Mode.toJson (m : Mode) : Json := .string m.name

/-- The mode whose name `v` is, if there is one. -/
def Mode.ofRaw? (v : Raw) : Option Mode := v.named? ofName?

/-- The JSON form of the approach `a`: its text. -/
def Approach.toJson (a : Approach) : Json := .string a.text

/-- The approach whose text `v` is, if it is a string. -/
def Approach.ofRaw? (v : Raw) : Option Approach := v.string?.map Approach.mk

/-- The JSON form of the identifier `id`: its text. -/
def AttemptId.toJson (id : AttemptId) : Json := .string id.text

/-- The identifier whose text `v` is, if it is a string. -/
def AttemptId.ofRaw? (v : Raw) : Option AttemptId := v.string?.map AttemptId.mk

/-! ### Records -/

namespace Record

/-- The fields of a `Record` in order. -/
def fieldNames : List String :=
  ["attempt_id", "phase", "card_label", "connector", "processed_by", "normalized_status",
    "error_message", "routing_approach", "mode"]

/-- The JSON form of the record `r`, with all its `fieldNames`. -/
def toJson (r : Record) : Json :=
  .object
    [("attempt_id", r.id.toJson), ("phase", r.phase.toJson), ("card_label", r.card.toJson),
      ("connector", .string r.connector), ("processed_by", .string r.processedBy),
      ("normalized_status", r.status.toJson), ("error_message", .ofOption r.errorMessage),
      ("routing_approach", r.approach.toJson), ("mode", r.mode.toJson)]

/-- The record that `v` is the JSON form of, if there is one. -/
def ofRaw? (v : Raw) : Option Record := do
  let fields ← v.fields? fieldNames
  return {
    id := ← fields.required "attempt_id" AttemptId.ofRaw?
    phase := ← fields.required "phase" Phase.ofRaw?
    card := ← fields.required "card_label" Card.ofRaw?
    connector := ← fields.required "connector" Raw.string?
    processedBy := ← fields.required "processed_by" Raw.string?
    status := ← fields.required "normalized_status" Status.ofRaw?
    errorMessage := ← fields.optional "error_message" Raw.string?
    approach := ← fields.required "routing_approach" Approach.ofRaw?
    mode := ← fields.required "mode" Mode.ofRaw? }

end Record

/-! ### Skips -/

namespace SkipReason

/-- The names of the two kinds of `SkipReason`. -/
def kind : SkipReason → String
  | noDecision => "NO_DECISION"
  | unknownConnector _ => "UNKNOWN_CONNECTOR"

/-- The fields of a `SkipReason` in order. -/
def fieldNames : List String := ["kind", "connector"]

/-- The JSON form of a reason. -/
def toJson : SkipReason → Json
  | noDecision => .object [("kind", .string noDecision.kind)]
  | unknownConnector connector =>
    .object [("kind", .string (unknownConnector connector).kind), ("connector", .string connector)]

/-- The reason of a `kind` with the `content` under the connector. A reason that names no connector
takes nothing but a null there. -/
def ofParts? (kind : String) (content : Option Raw) : Option SkipReason :=
  match kind, content with
  | "NO_DECISION", none => some noDecision
  | "NO_DECISION", some .null => some noDecision
  | "UNKNOWN_CONNECTOR", some v => v.string?.map unknownConnector
  | _, _ => none

/-- The reason that `v` is the JSON form of. An array has both parts, and its kind is a string; in
an object the kind has the form of any choice. -/
def ofRaw? (v : Raw) : Option SkipReason :=
  match v with
  | .array [kind, content] => kind.string?.bind (ofParts? · (some content))
  | .object members => do
    let fields ← Json.namedFields? fieldNames members
    ofParts? (← fields.required "kind" Raw.choice?) (fields.lookup "connector")
  | _ => none

end SkipReason

namespace Skip

/-- The fields of a `Skip` in order. -/
def fieldNames : List String := ["attempt_id", "phase", "reason"]

/-- The JSON form of the skip `s`, with all its `fieldNames`. -/
def toJson (s : Skip) : Json :=
  .object [("attempt_id", s.id.toJson), ("phase", s.phase.toJson), ("reason", s.reason.toJson)]

/-- The skip that `v` is the JSON form of, if there is one. -/
def ofRaw? (v : Raw) : Option Skip := do
  let fields ← v.fields? fieldNames
  return {
    id := ← fields.required "attempt_id" AttemptId.ofRaw?
    phase := ← fields.required "phase" Phase.ofRaw?
    reason := ← fields.required "reason" SkipReason.ofRaw? }

end Skip

end RouterTrial
