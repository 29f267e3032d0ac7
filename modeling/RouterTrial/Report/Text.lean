import RouterTrial.Report

/-!
# Reports as plain text

A report for the terminal: three lines of totals, and below them a section for each table that is
not empty, one line an entry. A narrative stands at the end, behind an empty line.
-/

namespace RouterTrial

/-- The `lines` of a text, each with its end. -/
def Text.unlines (lines : List String) : String := String.join (lines.map (· ++ "\n"))

/-- A `heading` with `lines` under it, or nothing without such lines. -/
def Text.titled (heading : List String) (lines : List String) : List String :=
  if lines.isEmpty then [] else heading ++ lines

namespace Report

open Text (padEnd padStart)

/-- The percentage of `part` in `whole`, with its sign. -/
def share (part whole : Nat) : String := toString (Number.percentage part whole) ++ "%"

/-- The lines with the totals of `r`. -/
def totalLines (r : Report) : List String :=
  ["Simulation summary (" ++ r.generatedAt.writeOffset ++ ")",
    "  attempts: " ++ toString r.attempts ++ "  successes: " ++ toString r.successes
      ++ "  failures: " ++ toString r.failures ++ "  skipped: " ++ toString r.skipped
      ++ "  simulated: " ++ toString r.simulated,
    "  exploitation: " ++ toString r.exploitation ++ " (" ++ share r.exploitation r.attempts
      ++ ")  exploration: " ++ toString r.exploration ++ " (" ++ share r.exploration r.attempts
      ++ ")"]

/-- The line of the status of `entry`. -/
def statusLine (entry : Status × Nat) : String :=
  "    " ++ padEnd 12 entry.1.name ++ " " ++ toString entry.2

/-- The line of the connector of `entry`. -/
def connectorLine (entry : String × ConnectorCounts) : String :=
  "    " ++ padEnd 24 entry.1 ++ " attempts=" ++ padEnd 5 (toString entry.2.attempts) ++ " ok="
    ++ padEnd 5 (toString entry.2.successes) ++ " failed="
    ++ padEnd 5 (toString entry.2.failures) ++ " success=" ++ toString entry.2.successPercent
    ++ "%"

/-- The line of the phase of `entry`. -/
def phaseLine (entry : Phase × PhaseCounts) : String :=
  "    " ++ padEnd 16 entry.1.name ++ " attempts=" ++ padEnd 5 (toString entry.2.attempts)
    ++ " success=" ++ share entry.2.successes entry.2.attempts ++ " exploitation="
    ++ toString entry.2.exploitation ++ " exploration=" ++ toString entry.2.exploration

/-- The line of the error message of `e`. -/
def errorLine (e : ErrorCount) : String :=
  "    " ++ padStart 4 (toString e.count) ++ "x " ++ e.message

/-- The lines of the report `r` without its narrative. -/
def textLines (r : Report) : List String :=
  r.totalLines ++ Text.titled ["  statuses:"] (r.byStatus.entries.map statusLine)
    ++ Text.titled ["  connectors:"] (r.perConnector.entries.map connectorLine)
    ++ Text.titled ["  phases:"] (r.perPhase.entries.map phaseLine)
    ++ Text.titled ["  top errors:"] (r.topErrors.map errorLine)

/-- The report `r` as plain text. -/
def toText (r : Report) : String :=
  Text.unlines (r.textLines ++ (r.narrative.map fun n => ["", Text.trimEnd n]).getD [])

end Report

end RouterTrial
