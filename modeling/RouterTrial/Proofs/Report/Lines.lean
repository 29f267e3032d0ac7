import RouterTrial.Proofs.Report.TopErrors
import RouterTrial.Proofs.Text.Lines
import RouterTrial.Report.Render

/-!
# Lines of reports

A report as text or in Markdown has a line for each of its entries, as long as no name of a
connector and no error message holds the end of a line (`Report.Unbroken`): each such end makes one
line more, which may look like any other. In the same way the row of a connector has five cells as
long as its name holds no bar.
-/

namespace RouterTrial

/-! ### Ends of lines -/

namespace Text

/-- Lines under a `heading` hold as many ends of lines as without it, if it holds none. -/
private theorem sum_breaks_titled {heading ls : List String} (h : (heading.map breaks).sum = 0) :
    ((titled heading ls).map breaks).sum = (ls.map breaks).sum := by
  rw [titled]
  split
  · rename_i hnil
    rw [List.isEmpty_iff.mp hnil]
  · rw [List.map_append, List.sum_append, h, Nat.zero_add]

/-- Each string that `write` gives holds as many ends of lines as what it is written for, its
`held`. -/
private theorem sum_breaks_map {α : Type} {write : α → String} {held : α → Nat}
    (h : ∀ a, breaks (write a) = held a) (as : List α) :
    ((as.map write).map breaks).sum = (as.map held).sum := by
  rw [List.map_map]
  exact congrArg List.sum (List.map_congr_left fun a _ => h a)

private theorem sum_breaks_map_eq_zero {α : Type} {write : α → String}
    (h : ∀ a, breaks (write a) = 0) (as : List α) : ((as.map write).map breaks).sum = 0 := by
  rw [List.sum_eq_zero_iff_forall_eq_nat, List.map_map, List.forall_mem_map]
  exact fun a _ => h a

/-- The number of lines of a section with so many `entries`, of which the `heading` has this
many. -/
def extent (heading entries : Nat) : Nat := if entries = 0 then 0 else heading + entries

private theorem length_titled (heading ls : List String) :
    (titled heading ls).length = extent heading.length ls.length := by
  cases ls with
  | nil => rfl
  | cons l ls => exact List.length_append

end Text

namespace Instant

private theorem breaks_writeYear (year : Int) : Text.breaks (writeYear year) = 0 := by
  rw [writeYear]
  split_ifs
  · exact Text.breaks_padZeros 4 _
  · rw [Text.breaks_append, Text.breaks_padZeros]
    rfl
  · rw [Text.breaks_append, Text.breaks_padZeros]
    rfl

private theorem breaks_writeFraction (nanos : Nat) : Text.breaks (writeFraction nanos) = 0 := by
  rw [writeFraction]
  split_ifs
  · rfl
  all_goals
    rw [Text.breaks_append, Text.breaks_padZeros]
    rfl

@[simp]
theorem breaks_writeOffset (t : Instant) : Text.breaks t.writeOffset = 0 := by
  simp only [writeOffset, writeLocal, Text.breaks_append, Text.breaks_padZeros, breaks_writeYear,
    breaks_writeFraction]
  rfl

end Instant

namespace Report

open Text (breaks breaks_eq_zero)

/-- No name of a connector and no error message of the report `r` holds the end of a line. -/
structure Unbroken (r : Report) : Prop where
  names : ∀ entry ∈ r.perConnector.entries, '\n' ∉ entry.1.toList
  messages : ∀ e ∈ r.topErrors, '\n' ∉ e.message.toList

/-- The number of ends of lines that the names and the messages of `r` hold. -/
def breaksHeld (r : Report) : Nat :=
  (r.perConnector.entries.map fun entry => breaks entry.1).sum
    + (r.topErrors.map fun e => breaks e.message).sum

private theorem breaksHeld_eq_zero_iff {r : Report} : r.breaksHeld = 0 ↔ r.Unbroken := by
  rw [breaksHeld, Nat.add_eq_zero_iff, List.sum_eq_zero_iff_forall_eq_nat,
    List.sum_eq_zero_iff_forall_eq_nat]
  simp only [List.forall_mem_map, Text.breaks_eq_zero_iff]
  exact ⟨fun h => ⟨h.1, h.2⟩, fun h => ⟨h.names, h.messages⟩⟩

/-! ### Plain text -/

@[simp]
theorem breaks_share (part whole : Nat) : breaks (share part whole) = 0 := by
  unfold share
  simp (disch := decide) [breaks_eq_zero]

private theorem breaks_statusLine (entry : Status × Nat) : breaks (statusLine entry) = 0 := by
  have hname : breaks entry.1.name = 0 := by cases entry.1 <;> rfl
  unfold statusLine
  simp (disch := decide) [breaks_eq_zero, hname]

private theorem breaks_connectorLine (entry : String × ConnectorCounts) :
    breaks (connectorLine entry) = breaks entry.1 := by
  unfold connectorLine
  simp (disch := decide) [breaks_eq_zero]

private theorem breaks_phaseLine (entry : Phase × PhaseCounts) : breaks (phaseLine entry) = 0 := by
  have hname : breaks entry.1.name = 0 := by cases entry.1 <;> rfl
  unfold phaseLine
  simp (disch := decide) [breaks_eq_zero, hname]

private theorem breaks_errorLine (e : ErrorCount) : breaks (errorLine e) = breaks e.message := by
  unfold errorLine
  simp (disch := decide) [breaks_eq_zero]

private theorem sum_breaks_totalLines (r : Report) : (r.totalLines.map breaks).sum = 0 := by
  simp (disch := decide) [breaks_eq_zero, totalLines]

/-- The lines of a text hold as many ends of lines as the names and the messages: `breaksHeld`. -/
theorem sum_breaks_textLines (r : Report) : (r.textLines.map breaks).sum = r.breaksHeld := by
  have hstatuses : (["  statuses:"].map breaks).sum = 0 := rfl
  have hconnectors : (["  connectors:"].map breaks).sum = 0 := rfl
  have hphases : (["  phases:"].map breaks).sum = 0 := rfl
  have herrors : (["  top errors:"].map breaks).sum = 0 := rfl
  simp only [textLines, List.map_append, List.sum_append, sum_breaks_totalLines,
    Text.sum_breaks_titled hstatuses, Text.sum_breaks_titled hconnectors,
    Text.sum_breaks_titled hphases, Text.sum_breaks_titled herrors,
    Text.sum_breaks_map_eq_zero breaks_statusLine, Text.sum_breaks_map breaks_connectorLine,
    Text.sum_breaks_map_eq_zero breaks_phaseLine, Text.sum_breaks_map breaks_errorLine,
    Nat.zero_add, Nat.add_zero, breaksHeld]

theorem length_textLines (r : Report) :
    r.textLines.length = 3 + Text.extent 1 r.byStatus.entries.length
      + Text.extent 1 r.perConnector.entries.length + Text.extent 1 r.perPhase.entries.length
      + Text.extent 1 r.topErrors.length := by
  simp only [textLines, List.length_append, Text.length_titled, List.length_map]
  rfl

/-! ### Markdown -/

/-- A row holds as many ends of lines as its `texts`. -/
private theorem breaks_row (texts : List String) : breaks (row texts) = (texts.map breaks).sum := by
  by_cases hne : texts = []
  · subst hne
    rfl
  · rw [breaks, Text.toList_row hne, List.count_cons_of_ne (by decide), List.count_flatMap]
    -- the space and the bar around a string end no line
    refine congrArg List.sum (List.map_congr_left fun t _ => ?_)
    change List.count '\n' (' ' :: (t.toList ++ [' ', '|'])) = _
    rw [List.count_cons_of_ne (by decide), List.count_append]
    rfl

private theorem breaks_connectorRow (entry : String × ConnectorCounts) :
    breaks (connectorRow entry) = breaks entry.1 := by
  rw [connectorRow, breaks_row]
  simp

private theorem breaks_phaseRow (entry : Phase × PhaseCounts) : breaks (phaseRow entry) = 0 := by
  have hname : breaks entry.1.name = 0 := by cases entry.1 <;> rfl
  rw [phaseRow, breaks_row]
  simp [hname]

private theorem breaks_errorItem (e : ErrorCount) : breaks (errorItem e) = breaks e.message := by
  unfold errorItem
  simp (disch := decide) [breaks_eq_zero]

private theorem sum_breaks_totalRows (r : Report) : (r.totalRows.map breaks).sum = 0 := by
  unfold totalRows
  simp (disch := decide) [breaks_eq_zero, breaks_row]

/-- The lines of a document hold as many ends of lines as the names and the messages:
`breaksHeld`. -/
theorem sum_breaks_markdownLines (r : Report) :
    (r.markdownLines.map breaks).sum = r.breaksHeld := by
  have hstart : (["# Routing simulation report", ""].map breaks).sum = 0 := rfl
  have hconnectors : ((tableHead "Connectors"
      ["Connector", "Attempts", "Successes", "Failures", "Success %"]).map breaks).sum = 0 := rfl
  have hphases : ((tableHead "Phases"
      ["Phase", "Attempts", "Success %", "Exploitation", "Exploration"]).map breaks).sum = 0 := rfl
  have herrors : (["", "## Most common errors", ""].map breaks).sum = 0 := rfl
  simp only [markdownLines, List.map_append, List.sum_append, hstart, sum_breaks_totalRows,
    Text.sum_breaks_titled hconnectors, Text.sum_breaks_titled hphases,
    Text.sum_breaks_titled herrors, Text.sum_breaks_map breaks_connectorRow,
    Text.sum_breaks_map_eq_zero breaks_phaseRow, Text.sum_breaks_map breaks_errorItem,
    Nat.zero_add, Nat.add_zero, breaksHeld]

theorem length_markdownLines (r : Report) :
    r.markdownLines.length = 11 + Text.extent 5 r.perConnector.entries.length
      + Text.extent 5 r.perPhase.entries.length + Text.extent 3 r.topErrors.length := by
  simp only [markdownLines, List.length_append, Text.length_titled, List.length_map]
  rfl

/-- The row of the connector of `entry` has the cells that its name makes up, and one for each of
its numbers. -/
private theorem cells_connectorRow (entry : String × ConnectorCounts) :
    Text.cells (connectorRow entry)
      = Text.cellsIn entry.1 ++ [toString entry.2.attempts, toString entry.2.successes,
          toString entry.2.failures, toString entry.2.successPercent] := by
  rw [connectorRow, Text.cells_row (List.cons_ne_nil _ _)]
  simp only [List.flatMap_cons, List.flatMap_nil, Text.cellsIn_toString]
  rfl

/-! ### Reports of records -/

/-- Reports of `records` have no narrative, and so they are their lines. -/
theorem render_ofRecords (records : List Record) (skipped : Nat) (generatedAt : Instant) :
    let r := ofRecords records skipped generatedAt
    r.render .text = Text.unlines r.textLines ∧
      r.render .markdown = Text.unlines r.markdownLines := by
  refine ⟨?_, ?_⟩
  · exact congrArg Text.unlines (List.append_nil _)
  · exact congrArg Text.unlines (List.append_nil _)

theorem lines_render_text_eq_iff (records : List Record) (skipped : Nat) (generatedAt : Instant) :
    let r := ofRecords records skipped generatedAt
    Text.lines (r.render .text) = r.textLines ↔ r.Unbroken := by
  intro r
  rw [(render_ofRecords records skipped generatedAt).1, Text.lines_unlines_eq_iff,
    sum_breaks_textLines, breaksHeld_eq_zero_iff]

/-- Names and messages of `records` without ends of lines are found in their report. -/
theorem unbroken_ofRecords {records : List Record} {skipped : Nat} {generatedAt : Instant}
    (h : ∀ record ∈ records, '\n' ∉ record.connector.toList ∧
      ∀ message ∈ record.errorMessage, '\n' ∉ (Text.trim message).toList) :
    (ofRecords records skipped generatedAt).Unbroken where
  names entry hentry := by
    have hcount := (count_ofRecords records skipped generatedAt).perConnector
    obtain ⟨record, hrecord, hname⟩ := (hcount.mem_keys _).mp (List.mem_map_of_mem hentry)
    rw [← hname]
    exact (h record hrecord).1
  messages e he := by
    -- a message of the report is one of a record without the white space around it
    have htop := ((census_countKeys (errorMessages records)).top_take maxTopErrors).counted e he
    obtain ⟨hmessage, -⟩ := List.mem_filter.mp htop.1
    obtain ⟨message, hmem, htrim⟩ := List.mem_map.mp hmessage
    obtain ⟨record, hrecord, hsome⟩ := List.mem_filterMap.mp hmem
    rw [← htrim]
    exact (h record hrecord).2 message hsome

/-- **Lines of reports.** The lines of a report as text, or in Markdown, are the totals and for each
section with entries its heading and a line for each entry in order, exactly if it is `Unbroken`: no
name of a connector and no error message holds the end of a line. Each such end makes one line more.
The cells of the row of a connector are those that its name makes up and behind them its numbers,
and they are five exactly if the name holds no bar. -/
theorem lines_render_and_cells (records : List Record) (skipped : Nat) (generatedAt : Instant) :
    let r := ofRecords records skipped generatedAt
    (Text.lines (r.render .text) = r.textLines ↔ r.Unbroken) ∧
      (Text.lines (r.render .text)).length
        = 3 + Text.extent 1 r.byStatus.entries.length + Text.extent 1 r.perConnector.entries.length
          + Text.extent 1 r.perPhase.entries.length + Text.extent 1 r.topErrors.length
          + r.breaksHeld ∧
      (Text.lines (r.render .markdown) = r.markdownLines ↔ r.Unbroken) ∧
      (Text.lines (r.render .markdown)).length
        = 11 + Text.extent 5 r.perConnector.entries.length
          + Text.extent 5 r.perPhase.entries.length + Text.extent 3 r.topErrors.length
          + r.breaksHeld ∧
      (∀ entry ∈ r.perConnector.entries,
        Text.cells (connectorRow entry)
          = Text.cellsIn entry.1 ++ [toString entry.2.attempts, toString entry.2.successes,
              toString entry.2.failures, toString entry.2.successPercent] ∧
          ((Text.cells (connectorRow entry)).length = 5 ↔ ¬Text.Barred entry.1)) ∧
      ((∀ record ∈ records, '\n' ∉ record.connector.toList ∧
          ∀ message ∈ record.errorMessage, '\n' ∉ (Text.trim message).toList) →
        r.Unbroken) := by
  intro r
  obtain ⟨htext, hmarkdown⟩ := render_ofRecords records skipped generatedAt
  refine ⟨lines_render_text_eq_iff records skipped generatedAt, ?_, ?_, ?_,
    fun entry _ => ⟨cells_connectorRow entry, ?_⟩, unbroken_ofRecords⟩
  · rw [htext, Text.length_lines_unlines, sum_breaks_textLines, length_textLines]
  · rw [hmarkdown, Text.lines_unlines_eq_iff, sum_breaks_markdownLines, breaksHeld_eq_zero_iff]
  · rw [hmarkdown, Text.length_lines_unlines, sum_breaks_markdownLines, length_markdownLines]
  · rw [cells_connectorRow, List.length_append, ← Text.length_cellsIn_eq_one_iff]
    exact Nat.add_right_cancel_iff

/-- A payment by a connector with a bar in its name, whose error message is the start of a page. -/
def errorPage : Record :=
  ⟨.ofIndex 1, .recovery, .fail, "a|b", "a|b", .failure, some "<html>\n<body>", .unknown,
    .exploration⟩

private theorem topErrors_errorPage :
    (ofRecords [errorPage] 0 ⟨0, 0⟩).topErrors = [⟨"<html>\n<body>", 1⟩] := by
  decide +kernel

private theorem entries_errorPage :
    (ofRecords [errorPage] 0 ⟨0, 0⟩).perConnector.entries = [("a|b", ⟨1, 0, 1, 0⟩)] := by
  decide +kernel

/-- An error message may take more than one line, and the row of a connector may have more than five
cells. -/
theorem not_lines_render_and_not_cells :
    (¬∀ (records : List Record) (skipped : Nat) (generatedAt : Instant),
      let r := ofRecords records skipped generatedAt
      Text.lines (r.render .text) = r.textLines) ∧
    ¬∀ (records : List Record) (skipped : Nat) (generatedAt : Instant),
      ∀ entry ∈ (ofRecords records skipped generatedAt).perConnector.entries,
        (Text.cells (connectorRow entry)).length = 5 := by
  refine ⟨fun h => ?_, fun h => ?_⟩
  · have hunbroken := (lines_render_text_eq_iff _ _ _).mp (h [errorPage] 0 ⟨0, 0⟩)
    have hmessage := hunbroken.messages ⟨"<html>\n<body>", 1⟩
    rw [topErrors_errorPage] at hmessage
    exact hmessage (List.mem_singleton.mpr rfl) (by decide)
  · have hcells := h [errorPage] 0 ⟨0, 0⟩ ("a|b", ⟨1, 0, 1, 0⟩)
    rw [entries_errorPage] at hcells
    exact absurd (hcells (List.mem_singleton.mpr rfl)) (by decide +kernel)

end Report

end RouterTrial
