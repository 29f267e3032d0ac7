import RouterTrial.Json.Printer
import RouterTrial.Report

/-!
# Reports as JSON

A report as an object with all its fields, tables as objects under the names of their keys.
-/

namespace RouterTrial

/-- The JSON form of the counts `c` of a connector. -/
def ConnectorCounts.toJson (c : ConnectorCounts) : Json :=
  .object
    [("attempts", .nat c.attempts), ("successes", .nat c.successes),
      ("failures", .nat c.failures), ("success_pct", .nat c.successPercent)]

/-- The JSON form of the counts `c` of a phase. -/
def PhaseCounts.toJson (c : PhaseCounts) : Json :=
  .object
    [("attempts", .nat c.attempts), ("successes", .nat c.successes),
      ("exploitation", .nat c.exploitation), ("exploration", .nat c.exploration)]

/-- The JSON form of the count `e` of a message. -/
def ErrorCount.toJson (e : ErrorCount) : Json :=
  .object [("message", .string e.message), ("count", .nat e.count)]

/-- The JSON form of the table `t`, its keys named by `name`. -/
def Table.toJson {κ ν : Type} (name : κ → String) (value : ν → Json) (t : Table κ ν) : Json :=
  .object (t.entries.map fun e => (name e.1, value e.2))

namespace Report

/-- The fields of the report `r` that are counted, in order. -/
def countFields (r : Report) : List (String × Json) :=
  [("total_attempts", .nat r.attempts), ("successes", .nat r.successes),
    ("failures", .nat r.failures), ("skipped", .nat r.skipped), ("simulated", .nat r.simulated),
    ("exploitation", .nat r.exploitation), ("exploration", .nat r.exploration),
    ("by_status", r.byStatus.toJson Status.name .nat),
    ("per_connector", r.perConnector.toJson id ConnectorCounts.toJson),
    ("per_phase", r.perPhase.toJson Phase.name PhaseCounts.toJson),
    ("top_errors", .array (r.topErrors.map ErrorCount.toJson))]

/-- The JSON form of the report `r`: its `countFields`, the narrative and the time. -/
def toJson (r : Report) : Json :=
  .object
    (r.countFields
      ++ [("narrative", .ofOption r.narrative), ("generated_at", .string r.generatedAt.writeZulu)])

end Report

end RouterTrial
