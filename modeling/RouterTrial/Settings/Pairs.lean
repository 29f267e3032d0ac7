import RouterTrial.Number.Integer
import RouterTrial.Text.Blank
import RouterTrial.Text.Split

/-!
# Lists of pairs

Settings that list connectors: entries between commas, each a name, an equals sign and what belongs
to the name. White space around either does not matter.

A list of accounts leaves out every entry that is not such a pair (`connectorPairs`). A list of
rates is all or nothing: one bad entry makes the whole list unreadable (`connectorRates?`).
-/

namespace RouterTrial.Settings

/-- The pair that the `entry` of a list of accounts writes. -/
def connectorPair? (entry : List Char) : Option (String × String) :=
  (Text.cut '=' entry).bind fun parts =>
    let name := Text.trimChars parts.1
    let account := Text.trimChars parts.2
    if name.isEmpty || account.isEmpty then none
    else some (String.ofList name, String.ofList account)

/-- The pairs of the list of accounts `text`. -/
def connectorPairs (text : String) : List (String × String) :=
  (Text.splitOn ',' text.toList).filterMap connectorPair?

/-- The pair that the `entry` of a list of rates writes. -/
def connectorRate? (entry : List Char) : Option (String × Int) :=
  (Text.cut '=' entry).bind fun parts =>
    let name := Text.trimChars parts.1
    if name.isEmpty then none
    else
      (Number.signed? (String.ofList (Text.trimChars parts.2))).map fun rate =>
        (String.ofList name, rate)

/-- The entries of the list `text` that are not blank, without the white space around them. -/
def filledEntries (text : String) : List (List Char) :=
  ((Text.splitOn ',' text.toList).map Text.trimChars).filter (! ·.isEmpty)

/-- The pairs of the list of rates `text`, if all of its `filledEntries` write one. -/
def connectorRates? (text : String) : Option (List (String × Int)) :=
  (filledEntries text).mapM connectorRate?

end RouterTrial.Settings
