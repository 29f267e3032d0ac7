import RouterTrial.Schedule

/-!
# The windows of a schedule

The windows of a schedule divide its attempts among them: every attempt from the first to the last
lies in exactly one window, also when windows are empty, and it is the one that the search finds.
So the search never comes out empty within a trial.
-/

namespace RouterTrial

namespace Schedule

theorem failureStart_le_failureEnd (s : Schedule) : s.failureStart ≤ s.failureEnd := by
  unfold failureEnd
  omega

theorem failureEnd_le_total (s : Schedule) : s.failureEnd ≤ s.total := by
  unfold failureEnd failureStart
  omega

/-! ### The plan -/

/-- The plan `s` is accepted if its number of attempts is positive and fits into a word, and its
percentage is one. -/
theorem plan?_eq_ok_iff {total percent : Int} {s : Schedule} :
    plan? total percent = .ok s ↔ (0 < total ∧ total ≤ maxAttempts) ∧
      (0 ≤ percent ∧ percent ≤ 100) ∧ s = ⟨total.toNat, percent.toNat⟩ := by
  rw [plan?, percent?]
  split
  · rename_i htotal
    split
    · rename_i hpercent
      simp only [Except.map, Except.ok.injEq, htotal, hpercent, and_self, true_and, eq_comm]
    · rename_i hpercent
      simp only [Except.map, reduceCtorEq, hpercent, false_and, and_false]
  · rename_i htotal
    simp only [reduceCtorEq, htotal, false_and]

/-! ### The search -/

/-- The window `w` that is found lies where the attempt is. -/
theorem contains_of_window? {s : Schedule} {index : Nat} {w : Window}
    (h : s.window? index = some w) : w ∈ s.windows ∧ w.contains index = true := by
  have hstart := s.failureStart_le_failureEnd
  unfold window? at h
  split at h
  · cases h
  · rename_i hindex
    refine ⟨List.mem_of_find?_eq_some h, ?_⟩
    rw [Window.contains_iff]
    simp only [windows, List.find?_cons, List.find?_nil] at h
    -- each window starts where the one before it ends, and those before it were passed over
    split at h
    · rename_i hle
      obtain rfl := Option.some.inj h
      simp only [decide_eq_true_eq] at hle ⊢
      omega
    · rename_i hgt
      simp only [decide_eq_false_iff_not] at hgt
      split at h
      · rename_i hle
        obtain rfl := Option.some.inj h
        simp only [decide_eq_true_eq] at hle ⊢
        omega
      · rename_i hgt'
        simp only [decide_eq_false_iff_not] at hgt'
        split at h
        · obtain rfl := Option.some.inj h
          simp only
          omega
        · cases h

/-- Two windows `w` and `w'` that share an attempt are the same. -/
theorem windows_unique {s : Schedule} {index : Nat} {w w' : Window} (hw : w ∈ s.windows)
    (hw' : w' ∈ s.windows) (hc : w.contains index = true) (hc' : w'.contains index = true) :
    w = w' := by
  have hstart := s.failureStart_le_failureEnd
  rw [Window.contains_iff] at hc hc'
  simp only [windows, List.mem_cons, List.not_mem_nil, or_false] at hw hw'
  rcases hw with rfl | rfl | rfl <;> rcases hw' with rfl | rfl | rfl <;>
    first | rfl | (simp only at hc hc'; omega)

/-- The attempt number `index` of the trial has a window. -/
theorem exists_window? {s : Schedule} {index : Nat} (hpos : 1 ≤ index) (hle : index ≤ s.total) :
    ∃ w, s.window? index = some w := by
  have hin : ¬(index = 0 ∨ s.total < index) := by omega
  have hlast : (⟨.recovery, s.failureEnd, s.total, s.percent⟩ : Window) ∈ s.windows := by
    simp [windows]
  rw [window?, if_neg hin, ← Option.isSome_iff_exists, List.find?_isSome]
  exact ⟨_, hlast, decide_eq_true hle⟩

/-- The window of the attempt number `index` is the one that it lies in. -/
theorem window?_eq_some_iff {s : Schedule} {index : Nat} {w : Window} :
    s.window? index = some w ↔ w ∈ s.windows ∧ w.contains index = true := by
  refine ⟨contains_of_window?, fun ⟨hw, hc⟩ => ?_⟩
  have hbounds : 1 ≤ index ∧ index ≤ s.total := by
    have hend := s.failureEnd_le_total
    have hstart := s.failureStart_le_failureEnd
    rw [Window.contains_iff] at hc
    simp only [windows, List.mem_cons, List.not_mem_nil, or_false] at hw
    rcases hw with rfl | rfl | rfl <;> simp only at hc <;> omega
  obtain ⟨w', hw'⟩ := exists_window? hbounds.1 hbounds.2
  obtain ⟨hmem, hc'⟩ := contains_of_window? hw'
  rw [hw', windows_unique hw hmem hc hc']

/-! ### Forced failure -/

/-- The window `w` of an attempt is that of forced failure within its numbers only, and payments
succeed at the percentage of the schedule outside it. -/
theorem window?_phase_percent {s : Schedule} {index : Nat} {w : Window}
    (h : s.window? index = some w) :
    (w.phase = .forcedFailure ↔ s.failureStart < index ∧ index ≤ s.failureEnd) ∧
      w.percent = if s.failureStart < index ∧ index ≤ s.failureEnd then 0 else s.percent := by
  have hstart := s.failureStart_le_failureEnd
  obtain ⟨hw, hc⟩ := contains_of_window? h
  rw [Window.contains_iff] at hc
  simp only [windows, List.mem_cons, List.not_mem_nil, or_false] at hw
  rcases hw with rfl | rfl | rfl
  · have hout : ¬(s.failureStart < index ∧ index ≤ s.failureEnd) := by
      simp only at hc
      omega
    simp [hout]
  · simp only at hc
    simp [hc]
  · have hout : ¬(s.failureStart < index ∧ index ≤ s.failureEnd) := by
      simp only at hc
      omega
    simp [hout]

end Schedule

end RouterTrial
