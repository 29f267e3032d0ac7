import RouterTrial.Directory
import RouterTrial.Json.Fields
import RouterTrial.Json.Reader

/-!
# Listings as JSON

The listed connectors of a source, read from a JSON text. A listing needs a name and an account; it
is enabled unless it says otherwise.
-/

namespace RouterTrial.Listing

open Json (Raw)

/-- The fields of a `Listing` in order. -/
def fieldNames : List String :=
  ["connector_name", "merchant_connector_id", "profile_id", "disabled"]

/-- The listing that `v` is the JSON form of, if there is one. -/
def ofRaw? (v : Raw) : Option Listing := do
  let fields ← v.fields? fieldNames
  return {
    connector := ← fields.required "connector_name" Raw.string?
    account := ← fields.required "merchant_connector_id" Raw.string?
    profile := ← fields.optional "profile_id" Raw.string?
    disabled := ← fields.defaulted "disabled" false Raw.bool? }

/-- The listings that `v` is the JSON form of, if it is an array of them. -/
def listOfRaw? (v : Raw) : Option (List Listing) := v.list? ofRaw?

/-- The listings that `text` writes, if it writes an array of them. -/
def listOfText? (text : String) : Option (List Listing) := (Raw.ofText? text).bind listOfRaw?

end RouterTrial.Listing
