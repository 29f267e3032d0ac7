import Mathlib.Data.List.Dedup
import Mathlib.Data.List.Sort
import RouterTrial.Proofs.Report

/-!
# The most frequent error messages

A report names the five most frequent error messages. The counts are sorted by a strict order, in
which a larger count comes first and of two equal ones the one with the smaller message
(`ErrorCount.Before`). Distinct messages are never equal in it, so there is only one way to sort
them: whatever the order in which the messages have been counted, and whatever the order in which
their counts are handed to the sort, the same five come first (`Census.mergeSort_eq`).
-/

namespace RouterTrial

/-! ### The messages that are counted -/

/-- The error message of the record `r`, trimmed, unless nothing is left of it. A record need not be
one of a failure to have one. -/
def Record.counted? (r : Record) : Option String :=
  (r.errorMessage.map Text.trim).filter (! ·.isEmpty)

private theorem errorMessages_eq (records : List Record) :
    errorMessages records = records.filterMap Record.counted? := by
  rw [errorMessages]
  induction records with
  | nil => rfl
  | cons r records ih =>
    rw [List.filterMap_cons, List.filterMap_cons, ← ih, Record.counted?]
    cases r.errorMessage with
    | none => rfl
    | some message =>
      rw [List.map_cons, List.filter_cons, Option.map_some, Option.filter_some]
      split <;> rfl

/-! ### The order of the counts -/

namespace ErrorCount

variable {x y z : ErrorCount}

/-- The count of `x` is larger, or it is the same and the message of `x` is smaller. Messages are in
the order of the code points of their characters. -/
def Before (x y : ErrorCount) : Prop :=
  y.count < x.count ∨ x.count = y.count ∧ x.message < y.message

instance : Decidable (x.Before y) := inferInstanceAs (Decidable (_ ∨ _))

theorem Before.trans (h : x.Before y) (h' : y.Before z) : x.Before z := by
  rcases h with hcount | ⟨hcount, hmessage⟩ <;> rcases h' with hcount' | ⟨hcount', hmessage'⟩
  · exact .inl (hcount'.trans hcount)
  · exact .inl (hcount' ▸ hcount)
  · exact .inl (hcount.symm ▸ hcount')
  · exact .inr ⟨hcount.trans hcount', String.lt_trans hmessage hmessage'⟩

instance : Std.Irrefl Before where
  irrefl x h := by
    rcases h with hcount | ⟨-, hmessage⟩
    · exact Nat.lt_irrefl _ hcount
    · exact String.lt_irrefl _ hmessage

instance : Std.Antisymm Before where
  antisymm x _ h h' := absurd (h.trans h') (Std.Irrefl.irrefl x)

private theorem before_or_eq_or_before (x y : ErrorCount) : x.Before y ∨ x = y ∨ y.Before x := by
  rcases Nat.lt_trichotomy x.count y.count with hcount | hcount | hcount
  · exact .inr (.inr (.inl hcount))
  · rcases Std.lt_trichotomy x.message y.message with hmessage | hmessage | hmessage
    · exact .inl (.inr ⟨hcount, hmessage⟩)
    · exact .inr (.inl (congrArg₂ mk hmessage hcount))
    · exact .inr (.inr (.inr ⟨hcount.symm, hmessage⟩))
  · exact .inl (.inl hcount)

/-- The comparison that sorts the counts is the order `Before`, together with equality. -/
private theorem precedes_iff : x.precedes y = true ↔ x.Before y ∨ x = y := by
  have hle : (compare x.message y.message).isLE = true ↔
      x.message < y.message ∨ x.message = y.message := by
    rw [← Std.le_iff_lt_or_eq]
    exact isLE_compareOfLessAndEq String.le_antisymm String.not_le String.le_total
  obtain ⟨message, count⟩ := x
  obtain ⟨message', count'⟩ := y
  simp only [precedes, Bool.or_eq_true, Bool.and_eq_true, decide_eq_true_eq, beq_iff_eq, Before,
    mk.injEq] at hle ⊢
  rw [hle, and_or_left, ← or_assoc, and_comm (a := message = message')]

theorem precedes_trans (x y z : ErrorCount) (h : x.precedes y = true) (h' : y.precedes z = true) :
    x.precedes z = true := by
  rw [precedes_iff] at h h' ⊢
  rcases h with h | rfl
  · rcases h' with h' | rfl
    · exact .inl (h.trans h')
    · exact .inl h
  · exact h'

theorem precedes_total (x y : ErrorCount) : (x.precedes y || y.precedes x) = true := by
  rw [Bool.or_eq_true, precedes_iff, precedes_iff]
  rcases before_or_eq_or_before x y with h | h | h
  · exact .inl (.inl h)
  · exact .inl (.inr h)
  · exact .inr (.inl h)

end ErrorCount

open ErrorCount

/-! ### Counts of messages -/

/-- The list `counts` has each of `messages` once, with the number of its occurrences, and it may
have them in any order. -/
structure Census (messages : List String) (counts : List ErrorCount) : Prop where
  nodup : (counts.map (·.message)).Nodup
  mem_iff : ∀ e, e ∈ counts ↔ e.message ∈ messages ∧ e.count = messages.count e.message

namespace Census

variable {messages messages' : List String} {counts counts' : List ErrorCount}

/-- The messages of a `Census` may be in any order as well. -/
private theorem of_perm (h : Census messages counts) (hperm : messages.Perm messages') :
    Census messages' counts where
  nodup := h.nodup
  mem_iff e := by rw [h.mem_iff, hperm.mem_iff, hperm.count_eq]

private theorem mem_map_message (h : Census messages counts) {message : String} :
    message ∈ counts.map (·.message) ↔ message ∈ messages := by
  rw [List.mem_map]
  constructor
  · rintro ⟨e, he, rfl⟩
    exact ((h.mem_iff e).mp he).1
  · intro hmem
    exact ⟨⟨message, messages.count message⟩, (h.mem_iff _).mpr ⟨hmem, rfl⟩, rfl⟩

/-- There are as many `counts` as there are distinct messages. -/
theorem length_eq (h : Census messages counts) : counts.length = messages.dedup.length := by
  have hperm : (counts.map (·.message)).Perm messages.dedup := by
    rw [List.perm_ext_iff_of_nodup h.nodup messages.nodup_dedup]
    intro message
    rw [h.mem_map_message, List.mem_dedup]
  rw [← hperm.length_eq, List.length_map]

/-- No two of the `counts` are equal, so their order is strict once they are sorted. -/
private theorem pairwise_mergeSort (h : Census messages counts) :
    (counts.mergeSort precedes).Pairwise Before := by
  have hsorted := List.pairwise_mergeSort precedes_trans precedes_total counts
  have hnodup : (counts.mergeSort precedes).Nodup :=
    (List.mergeSort_perm counts precedes).nodup_iff.mpr (List.Nodup.of_map _ h.nodup)
  refine (hsorted.and hnodup).imp fun ⟨hle, hne⟩ => ?_
  exact (precedes_iff.mp hle).resolve_right hne

/-- **Sorting.** The counts of the same `messages` are the same once they are sorted. -/
private theorem mergeSort_eq (h : Census messages counts) (h' : Census messages counts') :
    counts.mergeSort precedes = counts'.mergeSort precedes := by
  refine h.pairwise_mergeSort.eq_of_mem_iff h'.pairwise_mergeSort fun e => ?_
  rw [List.mem_mergeSort, List.mem_mergeSort, h.mem_iff, h'.mem_iff]

end Census

/-- The table in which `messages` are counted has each of them once, with its number. -/
theorem census_countKeys (messages : List String) :
    Census messages ((countKeys messages).entries.map fun e => ⟨e.1, e.2⟩) := by
  have hgroups := groups_countKeys id messages
  rw [List.map_id] at hgroups
  have hkeys : ∀ message, message ∈ (countKeys messages).keys ↔ message ∈ messages := by
    intro message
    rw [hgroups.mem_keys]
    simp only [id_eq, exists_eq_right]
  have hcount : ∀ entry ∈ (countKeys messages).entries, entry.2 = messages.count entry.1 := by
    intro entry hentry
    rw [(hgroups.right entry hentry).2, List.count_eq_countP, List.countP_eq_length_filter]
    rfl
  refine ⟨?_, fun e => ?_⟩
  · rw [List.map_map]
    exact hgroups.sorted.nodup_keys
  · rw [List.mem_map]
    constructor
    · rintro ⟨entry, hentry, rfl⟩
      exact ⟨(hkeys _).mp (List.mem_map_of_mem hentry), hcount entry hentry⟩
    · rintro ⟨hmessage, hnumber⟩
      obtain ⟨entry, hentry, hkey⟩ := List.mem_map.mp ((hkeys _).mpr hmessage)
      have hsame : entry.2 = e.count := by rw [hcount entry hentry, hkey, hnumber]
      exact ⟨entry, hentry, congrArg₂ ErrorCount.mk hkey hsame⟩

/-- A report sorts the `counts` of the messages, and it does not matter which list of them it
sorts. -/
theorem topErrors_eq {messages : List String} {counts : List ErrorCount}
    (h : Census messages counts) :
    topErrors messages = (counts.mergeSort precedes).take maxTopErrors := by
  rw [topErrors, (census_countKeys messages).mergeSort_eq h]

example : topErrors ["f", "e", "d", "c", "b", "a"]
    = [⟨"a", 1⟩, ⟨"b", 1⟩, ⟨"c", 1⟩, ⟨"d", 1⟩, ⟨"e", 1⟩] := by cbv

/-! ### The top of the counts -/

/-- The list `top` has the `messages` that come first, `size` of them or all if there are no more,
each with the number of its occurrences and in their order. -/
structure Top (size : Nat) (messages : List String) (top : List ErrorCount) : Prop where
  length : top.length = min size messages.dedup.length
  nodup : (top.map (·.message)).Nodup
  counted : ∀ e ∈ top, e.message ∈ messages ∧ e.count = messages.count e.message
  ordered : top.Pairwise Before
  rest : ∀ message ∈ messages, message ∉ top.map (·.message) →
    ∀ e ∈ top, e.Before ⟨message, messages.count message⟩

/-- The first ones of the sorted `counts` are the top of the messages. -/
theorem Census.top_take {messages : List String} {counts : List ErrorCount}
    (h : Census messages counts) (size : Nat) :
    Top size messages ((counts.mergeSort precedes).take size) := by
  have hmem : ∀ e, e ∈ counts.mergeSort precedes ↔
      e.message ∈ messages ∧ e.count = messages.count e.message := by
    intro e
    rw [List.mem_mergeSort, h.mem_iff]
  have hnodup : ((counts.mergeSort precedes).map (·.message)).Nodup :=
    ((List.mergeSort_perm counts precedes).map _).nodup_iff.mpr h.nodup
  have htake := List.take_sublist size (counts.mergeSort precedes)
  refine ⟨?_, hnodup.sublist (htake.map _), fun e he => (hmem e).mp (htake.subset he),
    h.pairwise_mergeSort.sublist htake, fun message hmessage hnot e he => ?_⟩
  · rw [List.length_take, List.length_mergeSort, h.length_eq]
  · -- the message has been cut off, and what is cut off comes behind the rest
    have hsplit := List.take_append_drop size (counts.mergeSort precedes)
    have hdrop : ⟨message, messages.count message⟩ ∈ (counts.mergeSort precedes).drop size := by
      have hsorted := (hmem ⟨message, messages.count message⟩).mpr ⟨hmessage, rfl⟩
      rw [← hsplit, List.mem_append] at hsorted
      exact hsorted.resolve_left fun hmem' => hnot (List.mem_map.mpr ⟨_, hmem', rfl⟩)
    have hordered := h.pairwise_mergeSort
    rw [← hsplit, List.pairwise_append] at hordered
    exact hordered.2.2 e he _ hdrop

namespace Report

/-- **Error messages.** A report names the five most frequent error messages of the `records`
(`Top`), or all of them if there are no more, each with the number of its occurrences. The list does
not depend on the order of the records, nor on the order in which the counts come out of the
table. -/
theorem top_topErrors_and_eq (records : List Record) (skipped : Nat) (generatedAt : Instant) :
    Top 5 (records.filterMap Record.counted?)
        (ofRecords records skipped generatedAt).topErrors ∧
      (∀ records' : List Record, records'.Perm records →
        (ofRecords records' skipped generatedAt).topErrors
          = (ofRecords records skipped generatedAt).topErrors) ∧
      ∀ counts, Census (records.filterMap Record.counted?) counts →
        (counts.mergeSort precedes).take 5
          = (ofRecords records skipped generatedAt).topErrors := by
  have htop : ∀ records : List Record, (ofRecords records skipped generatedAt).topErrors
      = RouterTrial.topErrors (records.filterMap Record.counted?) := by
    intro records
    rw [ofRecords, errorMessages_eq]
  simp only [htop]
  have hcensus := census_countKeys (records.filterMap Record.counted?)
  refine ⟨hcensus.top_take 5, fun records' hperm => ?_, fun counts hcounts =>
    (topErrors_eq hcounts).symm⟩
  exact topErrors_eq (hcensus.of_perm (hperm.filterMap _).symm)

end Report

end RouterTrial
