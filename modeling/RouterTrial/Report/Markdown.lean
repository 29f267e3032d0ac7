import RouterTrial.Report.Text

/-!
# Reports in Markdown

A report as a document: a table of totals, and below it a section for each table that is not empty,
and for the error messages a list. A narrative has a section of its own at the end.
-/

namespace RouterTrial.Report

/-- A row of a table with these `cells`. -/
def row (cells : List String) : String := "| " ++ " | ".intercalate cells ++ " |"

/-- The line below the head of a table with so many `columns`. -/
def rule (columns : Nat) : String := "|" ++ String.join (List.replicate columns "---|")

/-- The lines of the table of totals of `r`. -/
def totalRows (r : Report) : List String :=
  [row ["Metric", "Value"], rule 2, row ["Attempts", toString r.attempts],
    row ["Successes", toString r.successes], row ["Failures", toString r.failures],
    row ["Skipped", toString r.skipped], row ["Simulated executions", toString r.simulated],
    row ["Exploitation", toString r.exploitation], row ["Exploration", toString r.exploration]]

/-- The row of the connector of `entry`. -/
def connectorRow (entry : String × ConnectorCounts) : String :=
  row
    [entry.1, toString entry.2.attempts, toString entry.2.successes, toString entry.2.failures,
      toString entry.2.successPercent]

/-- The row of the phase of `entry`. -/
def phaseRow (entry : Phase × PhaseCounts) : String :=
  row
    [entry.1.name, toString entry.2.attempts,
      toString (Number.percentage entry.2.successes entry.2.attempts),
      toString entry.2.exploitation, toString entry.2.exploration]

/-- The list item of the error message of `e`. -/
def errorItem (e : ErrorCount) : String := "- " ++ e.message ++ " (" ++ toString e.count ++ ")"

/-- The lines before the rows of a table with a `title`. -/
def tableHead (title : String) (cells : List String) : List String :=
  ["", "## " ++ title, "", row cells, rule cells.length]

/-- The lines of the report `r` without its narrative. -/
def markdownLines (r : Report) : List String :=
  ["# Routing simulation report", ""] ++ r.totalRows
    ++ Text.titled
        (tableHead "Connectors" ["Connector", "Attempts", "Successes", "Failures", "Success %"])
        (r.perConnector.entries.map connectorRow)
    ++ Text.titled
        (tableHead "Phases" ["Phase", "Attempts", "Success %", "Exploitation", "Exploration"])
        (r.perPhase.entries.map phaseRow)
    ++ Text.titled ["", "## Most common errors", ""] (r.topErrors.map errorItem)

/-- The report `r` as a Markdown document. -/
def toMarkdown (r : Report) : String :=
  Text.unlines
    (r.markdownLines
      ++ (r.narrative.map fun n => ["", "## Analysis", "", Text.trimEnd n]).getD [])

end RouterTrial.Report
