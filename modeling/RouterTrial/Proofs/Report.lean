import Mathlib.Algebra.BigOperators.Group.List.Basic
import RouterTrial.Proofs.Table.Groups
import RouterTrial.Report

/-!
# What a report counts

The numbers of a report are counts over its records: in all, over the records of each status, over
those of each connector and over those of each phase. A group has an entry exactly if it has a
record, and the entries are in the order of their keys. So the entries of each of the three tables
add up to the counts in all.

Some of the numbers are worked out as differences. They are counts as well, since a payment that did
not go through is a failure and a decision that does not exploit explores.
-/

namespace RouterTrial

/-! ### Orders of the keys -/

instance : Std.TransOrd Status := inferInstanceAs (Std.TransCmp (compareOn Status.rank))

instance : Std.LawfulEqOrd Status where
  compare_self {s} := by cases s <;> rfl
  eq_of_compare {s s'} h := by cases s <;> cases s' <;> first | rfl | cases h

instance : Std.TransOrd Phase := inferInstanceAs (Std.TransCmp (compareOn Phase.rank))

instance : Std.LawfulEqOrd Phase where
  compare_self {p} := by cases p <;> rfl
  eq_of_compare {p p'} h := by cases p <;> cases p' <;> first | rfl | cases h

/-! ### What is to be counted -/

/-- The payment of the record `r` went through. -/
def Record.WentThrough (r : Record) : Prop := r.status = .charged ∨ r.status = .authorized

instance (r : Record) : Decidable r.WentThrough := inferInstanceAs (Decidable (_ ∨ _))

/-- The numbers of `c` are the counts over the records of a connector, of which there are some. -/
structure ConnectorCounts.Count (group : List Record) (c : ConnectorCounts) : Prop where
  attempts_pos : 0 < c.attempts
  attempts : c.attempts = group.length
  successes : c.successes = group.countP (·.WentThrough)
  failures : c.failures = group.countP (¬·.WentThrough)
  whole : c.successes + c.failures = c.attempts
  successPercent : c.successPercent = Number.percentage c.successes c.attempts

/-- The numbers of `c` are the counts over the records of a phase, of which there are some. -/
structure PhaseCounts.Count (group : List Record) (c : PhaseCounts) : Prop where
  attempts_pos : 0 < c.attempts
  attempts : c.attempts = group.length
  successes : c.successes = group.countP (·.WentThrough)
  exploitation : c.exploitation = group.countP (·.mode = .exploitation)
  exploration : c.exploration = group.countP (·.mode = .exploration)
  whole : c.exploitation + c.exploration = c.attempts

namespace Report

/-- The numbers of the report `r` are the counts over `records`. -/
structure Count (records : List Record) (r : Report) : Prop where
  attempts : r.attempts = records.length
  successes : r.successes = records.countP (·.WentThrough)
  failures : r.failures = records.countP (¬·.WentThrough)
  exploitation : r.exploitation = records.countP (·.mode = .exploitation)
  exploration : r.exploration = records.countP (·.mode = .exploration)
  simulated : r.simulated = records.countP (·.processedBy = "simulated_connector")
  byStatus : r.byStatus.Groups (·.status) records fun group count =>
    0 < count ∧ count = group.length
  perConnector : r.perConnector.Groups (·.connector) records ConnectorCounts.Count
  perPhase : r.perPhase.Groups (·.phase) records PhaseCounts.Count

/-- The sum of a `number` over the entries of the table `t`. -/
def total {κ ν : Type} (number : ν → Nat) (t : Table κ ν) : Nat :=
  (t.entries.map fun e => number e.2).sum

/-- The entries of the tables of the report `r` add up to the numbers in all. -/
structure AddsUp (r : Report) : Prop where
  whole : r.successes + r.failures = r.attempts
  modes : r.exploitation + r.exploration = r.attempts
  statuses : total id r.byStatus = r.attempts
  connectorAttempts : total ConnectorCounts.attempts r.perConnector = r.attempts
  connectorSuccesses : total ConnectorCounts.successes r.perConnector = r.successes
  connectorFailures : total ConnectorCounts.failures r.perConnector = r.failures
  phaseAttempts : total PhaseCounts.attempts r.perPhase = r.attempts
  phaseSuccesses : total PhaseCounts.successes r.perPhase = r.successes
  phaseExploitation : total PhaseCounts.exploitation r.perPhase = r.exploitation
  phaseExploration : total PhaseCounts.exploration r.perPhase = r.exploration

end Report

/-! ### Counts over a list of records -/

section Lists

variable (records : List Record)

private theorem countP_isSuccess :
    records.countP (·.status.isSuccess) = records.countP (·.WentThrough) := by
  refine List.countP_congr fun r _ => ?_
  rw [decide_eq_true_iff, Record.WentThrough]
  cases r.status <;> simp [Status.isSuccess]

/-- What did not go through is the rest of `records`. -/
private theorem length_sub_successes :
    records.length - records.countP (·.status.isSuccess) = records.countP (¬·.WentThrough) := by
  have hsplit := List.length_eq_countP_add_countP (fun r : Record => decide r.WentThrough)
    (l := records)
  simp only [decide_eq_true_eq] at hsplit
  rw [countP_isSuccess, hsplit, Nat.add_sub_cancel_left]

/-- What does not exploit explores: it is the rest of `records`. -/
private theorem length_sub_exploitation :
    records.length - records.countP (·.mode = .exploitation)
      = records.countP (·.mode = .exploration) := by
  have hsplit := List.length_eq_countP_add_countP
    (fun r : Record => decide (r.mode = .exploitation)) (l := records)
  have hrest : records.countP (fun r => decide ¬decide (r.mode = .exploitation) = true)
      = records.countP (·.mode = .exploration) := by
    refine List.countP_congr fun r _ => ?_
    cases r.mode <;> simp
  rw [hsplit, hrest, Nat.add_sub_cancel_left]

end Lists

/-! ### Tallies -/

/-- A tally of a `group` of records, on top of the tally `t`. -/
private theorem Tally.foldl_add (group : List Record) (t : Tally) :
    group.foldl Tally.add t = ⟨t.attempts + group.length,
      t.successes + group.countP (·.status.isSuccess),
      t.exploitation + group.countP (·.mode = .exploitation)⟩ := by
  induction group generalizing t with
  | nil => rfl
  | cons r group ih =>
    rw [List.foldl_cons, ih, Tally.add]
    simp only [List.length_cons, List.countP_cons, decide_eq_true_eq, Tally.mk.injEq]
    refine ⟨?_, ?_, ?_⟩ <;> omega

/-- The value `t` is the tally of a `group` of records, of which there are some. -/
def Tally.Of (group : List Record) (t : Tally) : Prop := group ≠ [] ∧ t = group.foldl add zero

private theorem Tally.groups_groupBy {κ : Type} [Ord κ] [Std.TransOrd κ] [Std.LawfulEqOrd κ]
    [DecidableEq κ] (key : Record → κ) (records : List Record) :
    (groupBy key records).Groups key records Of :=
  Table.groups_gather key zero add records

/-- The numbers of the tally `t` are the counts over a `group` of records, of which there are some,
and what they leave of the attempts are the counts of the other records. -/
structure Tally.Counts (group : List Record) (t : Tally) : Prop where
  attempts_pos : 0 < t.attempts
  attempts : t.attempts = group.length
  successes : t.successes = group.countP (·.WentThrough)
  failures : t.attempts - t.successes = group.countP (¬·.WentThrough)
  exploitation : t.exploitation = group.countP (·.mode = .exploitation)
  exploration : t.attempts - t.exploitation = group.countP (·.mode = .exploration)
  outcomes : t.successes + (t.attempts - t.successes) = t.attempts
  modes : t.exploitation + (t.attempts - t.exploitation) = t.attempts

theorem Tally.Of.counts {group : List Record} {t : Tally} (h : Of group t) : t.Counts group := by
  obtain ⟨hgroup, rfl⟩ := h
  rw [foldl_add]
  simp only [zero, Nat.zero_add]
  exact ⟨List.length_pos_iff.mpr hgroup, rfl, countP_isSuccess group, length_sub_successes group,
    rfl, length_sub_exploitation group, Nat.add_sub_cancel' List.countP_le_length,
    Nat.add_sub_cancel' List.countP_le_length⟩

/-! ### Keys that are counted -/

section Keys

variable {κ α : Type} [Ord κ]

private theorem countKeys_map (key : α → κ) (xs : List α) :
    countKeys (xs.map key) = Table.gather key 0 (fun count _ => count + 1) xs := by
  rw [countKeys, List.foldl_map, Table.gather]

private theorem foldl_succ (group : List α) (n : Nat) :
    group.foldl (fun count _ => count + 1) n = n + group.length := by
  induction group generalizing n with
  | nil => rfl
  | cons a group ih => rw [List.foldl_cons, ih, List.length_cons, Nat.add_right_comm, Nat.add_assoc]

/-- Each `key` that occurs is counted, and its count is the number of the elements that have it. -/
theorem groups_countKeys [Std.TransOrd κ] [Std.LawfulEqOrd κ] [DecidableEq κ] (key : α → κ)
    (xs : List α) :
    (countKeys (xs.map key)).Groups key xs fun group count => 0 < count ∧ count = group.length := by
  have hgroups := Table.groups_gather key 0 (fun count _ => count + 1) xs
  rw [countKeys_map]
  refine ⟨hgroups.sorted, hgroups.mem_keys, fun e he => ?_⟩
  obtain ⟨hgroup, hcount⟩ := hgroups.right e he
  rw [foldl_succ, Nat.zero_add] at hcount
  rw [hcount]
  exact ⟨List.length_pos_iff.mpr hgroup, rfl⟩

end Keys

/-! ### Sums over tables -/

private theorem sum_map_ite (p : Record → Bool) (records : List Record) :
    (records.map fun r => if p r then 1 else 0).sum = records.countP p := by
  induction records with
  | nil => rfl
  | cons r records ih => rw [List.map_cons, List.sum_cons, ih, List.countP_cons, Nat.add_comm]

private theorem sum_map_one (records : List Record) :
    (records.map fun _ => 1).sum = records.length := by
  rw [List.map_const', List.sum_replicate_nat, Nat.mul_one]

namespace Report

private theorem total_mapValues {κ ν μ : Type} (number : μ → Nat) (f : ν → μ) (t : Table κ ν) :
    total number (t.mapValues f) = total (fun v => number (f v)) t := by
  rw [total, total, Table.mapValues, List.map_map]
  rfl

/-- Numbers that make up the `whole` one in each entry do so in all. -/
private theorem total_add_total {κ ν : Type} {number number' whole : ν → Nat} {t : Table κ ν}
    (h : ∀ e ∈ t.entries, number e.2 + number' e.2 = whole e.2) :
    total number t + total number' t = total whole t := by
  rw [total, total, total, ← List.sum_map_add]
  exact congrArg List.sum (List.map_congr_left h)

section Tallies

variable {κ : Type} [Ord κ] (key : Record → κ) (records : List Record)

/-- What each record adds to the `number` of its group adds up over the groups. -/
private theorem total_groupBy {number : Tally → Nat} {c : Record → Nat} (hzero : number .zero = 0)
    (hadd : ∀ t r, number (Tally.add t r) = number t + c r) :
    total number (Tally.groupBy key records) = (records.map c).sum :=
  Table.sum_gather hzero hadd key records

theorem total_attempts_groupBy :
    total Tally.attempts (Tally.groupBy key records) = records.length := by
  rw [← sum_map_one]
  exact total_groupBy key records rfl fun _ _ => rfl

theorem total_successes_groupBy :
    total Tally.successes (Tally.groupBy key records) = records.countP (·.status.isSuccess) := by
  rw [← sum_map_ite]
  exact total_groupBy key records rfl fun _ _ => rfl

theorem total_exploitation_groupBy :
    total Tally.exploitation (Tally.groupBy key records)
      = records.countP (·.mode = .exploitation) := by
  rw [← sum_map_ite]
  refine total_groupBy key records rfl fun t r => ?_
  rw [Tally.add]
  simp only [decide_eq_true_eq]

end Tallies

/-! ### Reports of records -/

theorem count_ofRecords (records : List Record) (skipped : Nat) (generatedAt : Instant) :
    (ofRecords records skipped generatedAt).Count records where
  attempts := rfl
  successes := countP_isSuccess records
  failures := length_sub_successes records
  exploitation := rfl
  exploration := length_sub_exploitation records
  simulated := List.countP_congr fun r _ => by
    rw [Record.isSimulated, standInConnector, beq_iff_eq, decide_eq_true_iff]
  byStatus := groups_countKeys _ records
  perConnector := (Tally.groups_groupBy _ records).mapValues _ fun _ _ h =>
    ⟨h.counts.attempts_pos, h.counts.attempts, h.counts.successes, h.counts.failures,
      h.counts.outcomes, rfl⟩
  perPhase := (Tally.groups_groupBy _ records).mapValues _ fun _ _ h =>
    ⟨h.counts.attempts_pos, h.counts.attempts, h.counts.successes, h.counts.exploitation,
      h.counts.exploration, h.counts.modes⟩

theorem addsUp_ofRecords (records : List Record) (skipped : Nat) (generatedAt : Instant) :
    (ofRecords records skipped generatedAt).AddsUp := by
  have hcount := count_ofRecords records skipped generatedAt
  generalize hreport : ofRecords records skipped generatedAt = report at hcount
  have hwhole : report.successes + report.failures = report.attempts := by
    rw [← hreport]
    exact Nat.add_sub_cancel' List.countP_le_length
  have hmodes : report.exploitation + report.exploration = report.attempts := by
    rw [← hreport]
    exact Nat.add_sub_cancel' List.countP_le_length
  have hconnectorAttempts :
      total ConnectorCounts.attempts report.perConnector = report.attempts := by
    rw [← hreport]
    exact (total_mapValues _ _ _).trans (total_attempts_groupBy _ records)
  have hconnectorSuccesses :
      total ConnectorCounts.successes report.perConnector = report.successes := by
    rw [← hreport]
    exact (total_mapValues _ _ _).trans (total_successes_groupBy _ records)
  have hphaseAttempts : total PhaseCounts.attempts report.perPhase = report.attempts := by
    rw [← hreport]
    exact (total_mapValues _ _ _).trans (total_attempts_groupBy _ records)
  have hphaseExploitation :
      total PhaseCounts.exploitation report.perPhase = report.exploitation := by
    rw [← hreport]
    exact (total_mapValues _ _ _).trans (total_exploitation_groupBy _ records)
  refine ⟨hwhole, hmodes, ?_, hconnectorAttempts, hconnectorSuccesses, ?_, hphaseAttempts, ?_,
    hphaseExploitation, ?_⟩
  · rw [← hreport, ofRecords, countKeys_map, ← sum_map_one]
    exact Table.sum_gather (id_eq 0) (fun _ _ => rfl) _ records
  · -- the failures of a connector are the rest of its attempts
    have hrest := total_add_total fun e he => (hcount.perConnector.right e he).whole
    omega
  · rw [← hreport]
    exact (total_mapValues _ _ _).trans (total_successes_groupBy _ records)
  · have hrest := total_add_total fun e he => (hcount.perPhase.right e he).whole
    omega

/-- **Reports.** The report of any `records` counts them (`Count`), and its tables add up to the
counts in all (`AddsUp`). -/
theorem count_and_addsUp (records : List Record) (skipped : Nat) (generatedAt : Instant) :
    (ofRecords records skipped generatedAt).Count records ∧
      (ofRecords records skipped generatedAt).AddsUp :=
  ⟨count_ofRecords records skipped generatedAt, addsUp_ofRecords records skipped generatedAt⟩

end Report

end RouterTrial
