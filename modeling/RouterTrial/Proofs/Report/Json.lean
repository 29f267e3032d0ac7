import Mathlib.Algebra.Order.BigOperators.Group.List
import Mathlib.Algebra.Order.Group.Nat
import RouterTrial.Proofs.Clock
import RouterTrial.Proofs.Json.Object
import RouterTrial.Proofs.Report
import RouterTrial.Report.Render

/-!
# Reports read back

The text of a report as JSON says everything that the report says: it is read as an object with one
member for each field (`Report.fields`), the tables as objects under the names of their keys, and
reports with the same text are the same.

A report has counts of 64 bits and tables in order (`Report.Fits`). For telling reports apart by
their texts neither is needed, but the instants have to be some of the calendar.
-/

namespace RouterTrial

open Json (Consists Lists Reads Tells)

/-! ### Names -/

theorem Status.name_injective : Function.Injective name := Json.injective_of_ofName? ofName?_name

theorem Phase.name_injective : Function.Injective name := Json.injective_of_ofName? ofName?_name

/-! ### Objects -/

/-- Objects can be told apart if `name` tells the keys and `value` the values of their entries
apart. -/
theorem Json.tells_object {κ ν : Type} {name : κ → String} {value : ν → Json}
    (hname : Function.Injective name) (hvalue : Tells value) :
    Tells fun entries : List (κ × ν) => object (entries.map fun e => (name e.1, value e.2)) := by
  intro entries entries' h
  have hmembers := Raw.object.inj h
  rw [rawMembers_eq_map, rawMembers_eq_map, List.map_map, List.map_map] at hmembers
  have hentry : Function.Injective fun e : κ × ν => (some (name e.1), (value e.2).raw) := by
    rintro ⟨k, v⟩ ⟨k', v'⟩ heq
    obtain ⟨hk, hv⟩ := Prod.mk.inj heq
    exact congrArg₂ Prod.mk (hname (Option.some.inj hk)) (hvalue hv)
  exact List.map_injective_iff.mpr hentry hmembers

/-! ### Counts -/

/-- The members of `counts` by their names. -/
def countMembers (counts : List (String × Nat)) : List (String × Json) :=
  counts.map fun n => (n.1, .nat n.2)

/-- What is read of `counts` by their names. -/
def countReadings (counts : List (String × Nat)) : List (String × (Json → Prop)) :=
  counts.map fun n => (n.1, (· = .nat n.2))

private theorem map_fst_countReadings (counts : List (String × Nat)) :
    (countReadings counts).map (·.1) = counts.map (·.1) := List.map_map

/-- The `counts` of 64 bits are read one by one. -/
private theorem forall₂_reads_count {counts : List (String × Nat)} (depth : Nat)
    (h : ∀ n ∈ counts, n.2 ≤ Number.maxUnsigned) :
    List.Forall₂ (fun m field => m.1 = field.1 ∧ Reads depth m.2 field.2) (countMembers counts)
      (countReadings counts) := by
  rw [countMembers, countReadings, List.forall₂_map_left_iff, List.forall₂_map_right_iff,
    List.forall₂_same]
  exact fun n hn => ⟨rfl, Json.reads_nat depth (h n hn)⟩

private theorem reads_counts {counts : List (String × Nat)} (hnodup : (counts.map (·.1)).Nodup)
    (h : ∀ n ∈ counts, n.2 ≤ Number.maxUnsigned) :
    Reads 1 (.object (countMembers counts)) (Consists · (countReadings counts)) := by
  refine Json.reads_object ?_ (forall₂_reads_count 0 h)
  rwa [map_fst_countReadings]

/-- What is told apart by its `counts` is told apart by the object of them. -/
theorem tells_counts {α : Type} {counts : α → List (String × Nat)} (h : Function.Injective counts) :
    Tells fun a => .object (countMembers (counts a)) :=
  fun _ _ heq => h (Json.tells_object Function.injective_id Json.tells_nat heq)

/-- The counts of the connector `c` by their names. -/
def ConnectorCounts.counts (c : ConnectorCounts) : List (String × Nat) :=
  [("attempts", c.attempts), ("successes", c.successes), ("failures", c.failures),
    ("success_pct", c.successPercent)]

/-- The counts of the phase `c` by their names. -/
def PhaseCounts.counts (c : PhaseCounts) : List (String × Nat) :=
  [("attempts", c.attempts), ("successes", c.successes), ("exploitation", c.exploitation),
    ("exploration", c.exploration)]

private theorem ConnectorCounts.nodup_counts (c : ConnectorCounts) : (c.counts.map (·.1)).Nodup :=
  (by decide : ["attempts", "successes", "failures", "success_pct"].Nodup)

private theorem PhaseCounts.nodup_counts (c : PhaseCounts) : (c.counts.map (·.1)).Nodup :=
  (by decide : ["attempts", "successes", "exploitation", "exploration"].Nodup)

theorem ConnectorCounts.counts_injective : Function.Injective counts := by
  rintro ⟨attempts, successes, failures, successPercent⟩ ⟨_, _, _, _⟩ h
  simpa [counts] using h

theorem PhaseCounts.counts_injective : Function.Injective counts := by
  rintro ⟨attempts, successes, exploitation, exploration⟩ ⟨_, _, _, _⟩ h
  simpa [counts] using h

/-! ### Error messages -/

/-- What is read of the count `e` of a message. -/
def ErrorCount.fields (e : ErrorCount) : List (String × (Json → Prop)) :=
  [("message", (· = .string e.message)), ("count", (· = .nat e.count))]

theorem ErrorCount.reads_toJson {e : ErrorCount} (h : e.count ≤ Number.maxUnsigned) :
    Reads 1 e.toJson (Consists · e.fields) :=
  Json.reads_object (by decide : ["message", "count"].Nodup)
    (.cons ⟨rfl, Json.reads_string 0 _⟩ (.cons ⟨rfl, Json.reads_nat 0 h⟩ .nil))

theorem ErrorCount.tells_toJson : Tells toJson := by
  intro e e' h
  obtain ⟨message, count⟩ := e
  obtain ⟨message', count'⟩ := e'
  simpa [toJson, Json.raw, Json.rawMembers, Json.tells_nat.eq_iff, Json.tells_string.eq_iff] using h

/-! ### Tables -/

namespace Table

variable {κ ν : Type}

/-- What is read of the table `t`, its keys named by `name`. -/
def fields (name : κ → String) (p : ν → Json → Prop) (t : Table κ ν) :
    List (String × (Json → Prop)) :=
  t.entries.map fun e => (name e.1, p e.2)

/-- A table in order is read entry by entry, if `name` gives its keys different names. -/
theorem reads_toJson [Ord κ] [Std.LawfulEqOrd κ] {name : κ → String} {value : ν → Json}
    {p : ν → Json → Prop} {depth : Nat} {t : Table κ ν} (hname : Function.Injective name)
    (hsorted : t.Sorted) (h : ∀ e ∈ t.entries, Reads depth (value e.2) (p e.2)) :
    Reads (depth + 1) (t.toJson name value) (Consists · (t.fields name p)) := by
  have hnodup : (t.keys.map name).Nodup := hsorted.nodup_keys.map hname
  refine Json.reads_object ?_ ?_
  · rw [keys, List.map_map] at hnodup
    rw [fields, List.map_map]
    exact hnodup
  · rw [fields, List.forall₂_map_left_iff, List.forall₂_map_right_iff, List.forall₂_same]
    exact fun e he => ⟨rfl, h e he⟩

theorem tells_toJson {name : κ → String} {value : ν → Json} (hname : Function.Injective name)
    (hvalue : Tells value) : Tells (Table.toJson name value) := by
  intro t t' h
  exact congrArg Table.mk (Json.tells_object hname hvalue h)

end Table

/-! ### Sizes of counts -/

/-- No key occurs more often than there are `keys`. -/
private theorem le_length_of_mem_countKeys {keys : List String} {e : String × Nat}
    (he : e ∈ (countKeys keys).entries) : e.2 ≤ keys.length := by
  have hgather : countKeys keys = Table.gather id 0 (fun count _ => count + 1) keys := rfl
  have hsum : ((countKeys keys).entries.map fun e => id e.2).sum = (keys.map fun _ => 1).sum := by
    rw [hgather]
    exact Table.sum_gather (id_eq 0) (fun _ _ => rfl) id keys
  have hle := List.le_sum_of_mem (List.mem_map_of_mem (f := fun e => id e.2) he)
  rwa [hsum, List.map_const', List.sum_replicate_nat, Nat.mul_one] at hle

/-- What is said of a connector's `group` of at most `maxUnsigned` records has 64 bits. -/
private theorem ConnectorCounts.Count.le_maxUnsigned {group : List Record} {c : ConnectorCounts}
    (h : c.Count group) (hgroup : group.length ≤ Number.maxUnsigned) :
    ∀ n ∈ c.counts, n.2 ≤ Number.maxUnsigned := by
  have hattempts := h.attempts.trans_le hgroup
  have hpercent : c.successPercent ≤ Number.maxUnsigned := by
    rw [h.successPercent, Number.percentage]
    split
    · exact Nat.zero_le _
    · exact (Nat.min_le_right _ _).trans (by decide)
  have hwhole := h.whole
  simp only [ConnectorCounts.counts, List.forall_mem_cons]
  exact ⟨hattempts, by omega, by omega, hpercent, nofun⟩

/-- What is said of a phase's `group` of at most `maxUnsigned` records has 64 bits. -/
private theorem PhaseCounts.Count.le_maxUnsigned {group : List Record} {c : PhaseCounts}
    (h : c.Count group) (hgroup : group.length ≤ Number.maxUnsigned) :
    ∀ n ∈ c.counts, n.2 ≤ Number.maxUnsigned := by
  have hattempts := h.attempts.trans_le hgroup
  have hsuccesses := h.successes.trans_le (List.countP_le_length.trans hgroup)
  have hwhole := h.whole
  simp only [PhaseCounts.counts, List.forall_mem_cons]
  exact ⟨hattempts, hsuccesses, by omega, by omega, nofun⟩

/-- No message is counted more often than there are `messages`. -/
private theorem le_length_of_mem_topErrors {messages : List String} {e : ErrorCount}
    (he : e ∈ topErrors messages) : e.count ≤ messages.length := by
  obtain ⟨entry, hentry, rfl⟩ :=
    List.mem_map.mp (List.mem_mergeSort.mp (List.mem_of_mem_take he))
  exact le_length_of_mem_countKeys hentry

/-- There are at most as many error messages as `records`. -/
private theorem length_errorMessages_le (records : List Record) :
    (errorMessages records).length ≤ records.length := by
  calc (errorMessages records).length
    _ ≤ ((records.filterMap (·.errorMessage)).map Text.trim).length := List.length_filter_le _ _
    _ = (records.filterMap (·.errorMessage)).length := List.length_map _
    _ ≤ records.length := List.length_filterMap_le _ _

/-! ### Reports -/

namespace Report

/-- The counts over all records of the report `r` by their names. -/
def counts (r : Report) : List (String × Nat) :=
  [("total_attempts", r.attempts), ("successes", r.successes), ("failures", r.failures),
    ("skipped", r.skipped), ("simulated", r.simulated), ("exploitation", r.exploitation),
    ("exploration", r.exploration)]

/-- What is read of the report `r`. -/
def fields (r : Report) : List (String × (Json → Prop)) :=
  countReadings r.counts ++
    [("by_status", (Consists · (r.byStatus.fields Status.name fun n v => v = .nat n))),
      ("per_connector",
        (Consists · (r.perConnector.fields id fun c v => v.Consists (countReadings c.counts)))),
      ("per_phase",
        (Consists · (r.perPhase.fields Phase.name fun c v => v.Consists (countReadings c.counts)))),
      ("top_errors", Lists (fun e v => v.Consists e.fields) r.topErrors),
      ("narrative", (· = .ofOption r.narrative)),
      ("generated_at", (· = .string r.generatedAt.writeZulu))]

/-- The names of the thirteen `fields`. -/
theorem map_fst_fields (r : Report) :
    r.fields.map (·.1) =
      ["total_attempts", "successes", "failures", "skipped", "simulated", "exploitation",
        "exploration", "by_status", "per_connector", "per_phase", "top_errors", "narrative",
        "generated_at"] := rfl

/-- The counts of the report `r` have 64 bits, and its tables are in order. -/
structure Fits (r : Report) : Prop where
  counts : ∀ n ∈ r.counts, n.2 ≤ Number.maxUnsigned
  byStatus : r.byStatus.Sorted ∧ ∀ e ∈ r.byStatus.entries, e.2 ≤ Number.maxUnsigned
  perConnector : r.perConnector.Sorted ∧
    ∀ e ∈ r.perConnector.entries, ∀ n ∈ e.2.counts, n.2 ≤ Number.maxUnsigned
  perPhase : r.perPhase.Sorted ∧
    ∀ e ∈ r.perPhase.entries, ∀ n ∈ e.2.counts, n.2 ≤ Number.maxUnsigned
  topErrors : ∀ e ∈ r.topErrors, e.count ≤ Number.maxUnsigned

/-- The report on less than `2 ^ 64` records and as many skips is one of these. -/
theorem fits_ofRecords {records : List Record} {skipped : Nat} {generatedAt : Instant}
    (hrecords : records.length ≤ Number.maxUnsigned) (hskipped : skipped ≤ Number.maxUnsigned) :
    (ofRecords records skipped generatedAt).Fits := by
  have hcount := count_ofRecords records skipped generatedAt
  -- whatever a report counts, it counts records
  have hgroup : ∀ p : Record → Bool, (records.filter p).length ≤ Number.maxUnsigned :=
    fun p => (List.length_filter_le p records).trans hrecords
  have hparts : ∀ p : Record → Bool, records.countP p ≤ Number.maxUnsigned :=
    fun p => List.countP_le_length.trans hrecords
  refine ⟨?_, ⟨hcount.byStatus.sorted, ?_⟩, ⟨hcount.perConnector.sorted, ?_⟩,
    ⟨hcount.perPhase.sorted, ?_⟩, ?_⟩
  · simp only [counts, List.forall_mem_cons]
    refine ⟨hrecords, hparts _, ?_, hskipped, hparts _, hparts _, ?_, nofun⟩
    · exact (Nat.sub_le _ _).trans hrecords
    · exact (Nat.sub_le _ _).trans hrecords
  · intro e he
    rw [(hcount.byStatus.right e he).2]
    exact hgroup _
  · intro e he
    exact (hcount.perConnector.right e he).le_maxUnsigned (hgroup _)
  · intro e he
    exact (hcount.perPhase.right e he).le_maxUnsigned (hgroup _)
  · intro e he
    have hmessages := (le_length_of_mem_topErrors he).trans (length_errorMessages_le records)
    exact hmessages.trans hrecords

theorem reads_toJson {r : Report} (h : r.Fits) : Reads 3 r.toJson (Consists · r.fields) := by
  have hstatus := Table.reads_toJson (p := fun n v => v = .nat n) Status.name_injective
    h.byStatus.1 fun e he => Json.reads_nat 1 (h.byStatus.2 e he)
  have hconnector : Reads 2 (r.perConnector.toJson id ConnectorCounts.toJson) (Consists ·
      (r.perConnector.fields id fun c v => v.Consists (countReadings c.counts))) :=
    Table.reads_toJson Function.injective_id h.perConnector.1 fun e he =>
      reads_counts e.2.nodup_counts (h.perConnector.2 e he)
  have hphase : Reads 2 (r.perPhase.toJson Phase.name PhaseCounts.toJson) (Consists ·
      (r.perPhase.fields Phase.name fun c v => v.Consists (countReadings c.counts))) :=
    Table.reads_toJson Phase.name_injective h.perPhase.1 fun e he =>
      reads_counts e.2.nodup_counts (h.perPhase.2 e he)
  have herrors := Json.reads_array fun e he => ErrorCount.reads_toJson (h.topErrors e he)
  refine Json.reads_object ?_ (List.rel_append (forall₂_reads_count 2 h.counts) ?_)
  · rw [map_fst_fields]
    decide
  · exact .cons ⟨rfl, hstatus⟩ <| .cons ⟨rfl, hconnector⟩ <| .cons ⟨rfl, hphase⟩ <|
      .cons ⟨rfl, herrors⟩ <| .cons ⟨rfl, Json.reads_ofOption 2 _⟩ <|
      .cons ⟨rfl, Json.reads_string 2 _⟩ .nil

/-- Reports `r` and `r'` with the same text agree in every field, their instants as far as they have
different texts. -/
private theorem eq_of_pretty_eq {r r' : Report} (h : r.toJson.pretty = r'.toJson.pretty) :
    r = { r' with generatedAt := r.generatedAt } ∧
      r.generatedAt.writeZulu = r'.generatedAt.writeZulu := by
  have hstatus := Table.tells_toJson Status.name_injective Json.tells_nat
  have hcounts : Tells ConnectorCounts.toJson := tells_counts ConnectorCounts.counts_injective
  have hcounts' : Tells PhaseCounts.toJson := tells_counts PhaseCounts.counts_injective
  have hconnector := Table.tells_toJson Function.injective_id hcounts
  have hphase := Table.tells_toJson Phase.name_injective hcounts'
  have herrors := Tells.array ErrorCount.tells_toJson
  obtain ⟨attempts, successes, failures, skipped, simulated, exploitation, exploration, byStatus,
    perConnector, perPhase, topErrors, narrative, generatedAt⟩ := r
  obtain ⟨attempts', successes', failures', skipped', simulated', exploitation', exploration',
    byStatus', perConnector', perPhase', topErrors', narrative', generatedAt'⟩ := r'
  have hmembers := Json.Raw.object.inj (Json.raw_eq_of_pretty_eq h)
  simp only [Report.countFields, List.cons_append, List.nil_append, Json.rawMembers,
    List.cons.injEq, Prod.mk.injEq, true_and, and_true, Json.tells_nat.eq_iff, hstatus.eq_iff,
    hconnector.eq_iff, hphase.eq_iff, herrors.eq_iff, Json.tells_ofOption.eq_iff,
    Json.tells_string.eq_iff] at hmembers
  obtain ⟨rfl, rfl, rfl, rfl, rfl, rfl, rfl, rfl, rfl, rfl, rfl, rfl, hzulu⟩ := hmembers
  exact ⟨rfl, hzulu⟩

/-- **Nothing is lost.** The text of a report as JSON is read as an object with a member for each of
the `Report.fields` and no other. Reports with the same text agree in every field, in their instants
as well if these are instants of the calendar (`Instant.Valid`). -/
theorem consists_render_and_eq_of_render_eq :
    (∀ r : Report, r.Fits → ∃ v, Json.ofText? (r.render .json) = some v ∧ v.Consists r.fields) ∧
    ∀ r r' : Report, r.render .json = r'.render .json →
      r = { r' with generatedAt := r.generatedAt } ∧
        (r.generatedAt.Valid → r'.generatedAt.Valid → r = r') := by
  refine ⟨fun r h => (reads_toJson h).pretty (by decide), fun r r' h => ?_⟩
  obtain ⟨hfields, hzulu⟩ := eq_of_pretty_eq h
  refine ⟨hfields, fun hvalid hvalid' => ?_⟩
  rw [hfields, Instant.writeZulu_injOn hvalid hvalid' hzulu]

/-- Two payments by different connectors in the phase of forced failures. -/
def twoRecords : List Record :=
  [⟨.ofIndex 1, .forcedFailure, .fail, "say \"a\"", "say \"a\"", .failure, some "card\ndeclined",
      .selection, .exploitation⟩,
    ⟨.ofIndex 2, .forcedFailure, .success, "b", "b", .charged, none, .unknown, .exploration⟩]

theorem consists_render_of_twoRecords :
    (∃ v, Json.ofText? ((ofRecords twoRecords 1 ⟨1700000000, 0⟩).render .json) = some v ∧
      v.Consists (ofRecords twoRecords 1 ⟨1700000000, 0⟩).fields) ∧
    (ofRecords twoRecords 1 ⟨1700000000, 0⟩).render .json
      ≠ (ofRecords twoRecords 1 ⟨1700000000, 500⟩).render .json := by
  obtain ⟨hread, hsame⟩ := consists_render_and_eq_of_render_eq
  refine ⟨hread _ (fits_ofRecords (by decide) (by decide)), fun h => ?_⟩
  have heq := (hsame _ _ h).2 (by decide) (by decide)
  exact absurd (congrArg (·.generatedAt.nanos) heq) (by decide)

end Report

end RouterTrial
