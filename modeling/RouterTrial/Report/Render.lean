import RouterTrial.Report.Json
import RouterTrial.Report.Markdown
import RouterTrial.Settings.Setting

/-!
# Rendering reports

A report in the format that the settings ask for.
-/

namespace RouterTrial

/-- The text of a report in a format. -/
def Report.render : ReportFormat → Report → String
  | .text, r => r.toText
  | .markdown, r => r.toMarkdown
  | .json, r => r.toJson.pretty

end RouterTrial
