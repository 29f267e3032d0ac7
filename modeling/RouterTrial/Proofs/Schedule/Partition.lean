import Mathlib.Data.List.Nodup
import RouterTrial.Proofs.Schedule

/-!
# Schedules divide the attempts of a trial

A plan is accepted exactly if its number of attempts is positive and fits into a word and its
percentage is one (`Schedule.exists_plan?_iff`). The windows of the schedule then follow on one
another from the first attempt to the last, and all their numbers are what words of 32 bits give
(`Schedule.Partition`).

The window of an attempt can be looked for in three ways that agree, also when windows are empty and
end where others do (`Schedule.Finds`): as the first one that does not end before the attempt, as
the only one that contains it, and by a bisection of the numbers where the windows end. The last of
them needs that these are in order, so `bisect` is treated here for lists of any kind.
-/

namespace RouterTrial

/-! ### Bisection -/

section Bisection

variable {α : Type} {p : α → Bool}

/-- The place between `low` and `high` where the elements of `xs` cease to have the property `p`,
found by halving; the elements that have it are supposed to come first. -/
def bisect (p : α → Bool) (xs : List α) (low high : Nat) : Nat :=
  if low < high then
    let middle := low + (high - low) / 2
    if xs[middle]?.any p then bisect p xs (middle + 1) high else bisect p xs low middle
  else low
termination_by high - low

/-- A bisection ends at the `cut`, where the elements are cut in two by the property. -/
private theorem bisect_eq_of_cut {xs : List α} {cut : Nat}
    (hcut : ∀ i x, xs[i]? = some x → (p x = true ↔ i < cut)) {low high : Nat} (hlow : low ≤ cut)
    (hhigh : cut ≤ high) (hlength : high ≤ xs.length) : bisect p xs low high = cut := by
  fun_induction bisect p xs low high with
  | case1 low high hlt middle hany ih =>
    obtain ⟨x, hx, hp⟩ := (Option.any_eq_true _ _).mp hany
    have hbelow : middle < cut := (hcut middle x hx).mp hp
    exact ih hbelow hhigh hlength
  | case2 low high hlt middle hany ih =>
    have hmiddle : middle < xs.length := by omega
    have hx := List.getElem?_eq_getElem hmiddle
    have habove : ¬middle < cut := fun hbelow => by
      rw [hx, Option.any_some] at hany
      exact hany ((hcut middle _ hx).mpr hbelow)
    exact ih hlow (Nat.le_of_not_lt habove) (Nat.le_of_lt hmiddle)
  | case3 low high hge => omega

/-- Where those with the property `p` come first, they are the ones before the first without it. -/
private theorem iff_lt_length_takeWhile {xs : List α}
    (h : xs.Pairwise fun x y => p y = true → p x = true) {i : Nat} {x : α}
    (hx : xs[i]? = some x) : p x = true ↔ i < (xs.takeWhile p).length := by
  induction xs generalizing i with
  | nil => cases hx
  | cons y xs ih =>
    obtain ⟨hfirst, hrest⟩ := List.pairwise_cons.mp h
    rw [List.takeWhile_cons]
    by_cases hy : p y = true
    · rw [if_pos hy, List.length_cons]
      cases i with
      | zero =>
        obtain rfl : y = x := Option.some.inj hx
        exact iff_of_true hy (Nat.succ_pos _)
      | succ i => rw [ih hrest hx, Nat.succ_lt_succ_iff]
    · -- what comes behind an element without the property has it neither
      have hx' : ¬p x = true := by
        rcases List.mem_cons.mp (List.mem_of_getElem? hx) with rfl | hmem
        · exact hy
        · exact fun hpx => hy (hfirst x hmem hpx)
      rw [if_neg hy]
      exact iff_of_false hx' (Nat.not_lt_zero i)

private theorem getElem?_length_takeWhile (p : α → Bool) (xs : List α) :
    xs[(xs.takeWhile p).length]? = xs.find? fun x => !p x := by
  induction xs with
  | nil => rfl
  | cons x xs ih =>
    rw [List.takeWhile_cons, List.find?_cons]
    cases p x with
    | true => exact ih
    | false => rfl

/-- **Bisection.** Where the elements with the property `p` come first, `bisect` finds the first one
without it. -/
theorem getElem?_bisect {xs : List α} (h : xs.Pairwise fun x y => p y = true → p x = true) :
    xs[bisect p xs 0 xs.length]? = xs.find? fun x => !p x := by
  have hcut : bisect p xs 0 xs.length = (xs.takeWhile p).length :=
    bisect_eq_of_cut (fun _ _ => iff_lt_length_takeWhile h) (Nat.zero_le _)
      (List.takeWhile_prefix p).length_le (Nat.le_refl _)
  rw [hcut, getElem?_length_takeWhile]

end Bisection

/-! ### Windows in words -/

/-- The numbers of the window `w` fit into words of 32 bits, and the first attempt and the number of
attempts are what words give for them, without a carry. -/
structure Window.InWords (w : Window) : Prop where
  through : (UInt32.ofNat w.through).toNat = w.through
  first : (UInt32.ofNat w.after + 1).toNat = w.after + 1
  length : (UInt32.ofNat w.through - UInt32.ofNat w.after).toNat = w.length

private theorem Window.inWords_of_lt {w : Window} (hle : w.after ≤ w.through)
    (hthrough : w.through ≤ maxAttempts) (hafter : w.after < maxAttempts) : w.InWords := by
  have hthrough' : w.through < 2 ^ 32 := Nat.lt_of_le_of_lt hthrough (by decide)
  have hafter' : w.after + 1 < 2 ^ 32 := Nat.lt_of_le_of_lt hafter (by decide)
  have hofNat : (UInt32.ofNat w.after).toNat = w.after :=
    UInt32.toNat_ofNat_of_lt' (Nat.lt_of_succ_lt hafter')
  have hofNat' : (UInt32.ofNat w.through).toNat = w.through := UInt32.toNat_ofNat_of_lt' hthrough'
  refine ⟨hofNat', ?_, ?_⟩
  · rw [UInt32.toNat_add, hofNat]
    exact Nat.mod_eq_of_lt hafter'
  · have hword : UInt32.ofNat w.after ≤ UInt32.ofNat w.through := by
      rw [UInt32.le_iff_toNat_le, hofNat, hofNat']
      exact hle
    rw [UInt32.toNat_sub_of_le _ _ hword, hofNat, hofNat', Window.length]

namespace Schedule

/-! ### The windows -/

/-- The windows of `s` follow on one another from the first attempt to the last. They are the three
phases, with half of the attempts, a quarter and the rest, each rounded down; there is always a
rest. All that is worked out for them comes to the same in words of 32 bits. -/
structure Partition (s : Schedule) : Prop where
  phases : s.windows.map (·.phase) = [.baseline, .forcedFailure, .recovery]
  contiguous : s.windows.map (·.after) ++ [s.total] = 0 :: s.windows.map (·.through)
  lengths : s.windows.map (·.length)
    = [s.total / 2, s.total / 4, s.total - s.total / 2 - s.total / 4]
  rest_pos : 0 < s.total - s.total / 2 - s.total / 4
  percents : s.windows.map (·.percent) = [s.percent, 0, s.percent]
  bounds : (UInt32.ofNat s.total / 2).toNat = s.failureStart ∧
    (UInt32.ofNat s.total / 2 + UInt32.ofNat s.total / 4).toNat = s.failureEnd
  inWords : ∀ w ∈ s.windows, w.InWords

theorem partition_of_total {s : Schedule} (hpos : 0 < s.total) (hle : s.total ≤ maxAttempts) :
    s.Partition := by
  have hstart : s.failureStart = s.total / 2 := rfl
  have hend : s.failureEnd = s.total / 2 + s.total / 4 := rfl
  have hword : s.total < 2 ^ 32 := Nat.lt_of_le_of_lt hle (by decide)
  have hofNat : (UInt32.ofNat s.total).toNat = s.total := UInt32.toNat_ofNat_of_lt' hword
  have hhalf : (UInt32.ofNat s.total / 2).toNat = s.failureStart := by
    rw [UInt32.toNat_div, hofNat]
    rfl
  have hquarter : (UInt32.ofNat s.total / 4).toNat = s.total / 4 := by
    rw [UInt32.toNat_div, hofNat]
    rfl
  refine ⟨rfl, rfl, ?_, by omega, rfl, ⟨hhalf, ?_⟩, fun w hw => ?_⟩
  · simp only [windows, List.map_cons, List.map_nil, Window.length, hstart, hend, Nat.sub_zero,
      Nat.add_sub_cancel_left, Nat.sub_sub]
  · rw [UInt32.toNat_add, hhalf, hquarter]
    exact Nat.mod_eq_of_lt (by omega)
  · simp only [windows, List.mem_cons, List.not_mem_nil, or_false] at hw
    rcases hw with rfl | rfl | rfl <;> refine Window.inWords_of_lt ?_ ?_ ?_ <;> simp only <;> omega

/-! ### The search -/

/-- The windows of `s` end in order. -/
private theorem pairwise_through_windows (s : Schedule) :
    s.windows.Pairwise fun w w' => w.through ≤ w'.through := by
  have hstart := s.failureStart_le_failureEnd
  have hend := s.failureEnd_le_total
  simp only [windows, List.pairwise_cons, List.mem_cons, List.not_mem_nil, or_false,
    forall_eq_or_imp, forall_eq, List.Pairwise.nil, and_true, false_implies, implies_true]
  omega

/-- What the window of the attempt number `index`, if there is one, has to do with the windows of
`s`. -/
structure Finds (s : Schedule) (index : Nat) : Prop where
  bisects : s.window? index = if index = 0 ∨ s.total < index then none
    else s.windows[bisect (fun w => w.through < index) s.windows 0 s.windows.length]?
  none_iff : s.window? index = none ↔ index = 0 ∨ s.total < index
  /-- The window is the only one of the three that contains `index`. -/
  filter_contains : s.windows.filter (·.contains index) = (s.window? index).toList
  percentAt : s.percentAt? index = if index = 0 ∨ s.total < index then none
    else some (if s.total / 2 < index ∧ index ≤ s.total / 2 + s.total / 4 then 0 else s.percent)

theorem window?_eq_bisect (s : Schedule) (index : Nat) :
    s.window? index = if index = 0 ∨ s.total < index then none
      else s.windows[bisect (fun w => w.through < index) s.windows 0 s.windows.length]? := by
  have hordered : s.windows.Pairwise fun w w' =>
      decide (w'.through < index) = true → decide (w.through < index) = true :=
    s.pairwise_through_windows.imp fun {_ _} hle hlt =>
      decide_eq_true (Nat.lt_of_le_of_lt hle (of_decide_eq_true hlt))
  have hnot : (fun w : Window => !decide (w.through < index))
      = fun w : Window => decide (index ≤ w.through) := by
    funext w
    rw [← decide_not, decide_eq_decide, Nat.not_lt]
  rw [getElem?_bisect hordered, hnot, window?]

theorem window?_eq_none_iff {s : Schedule} {index : Nat} :
    s.window? index = none ↔ index = 0 ∨ s.total < index := by
  constructor
  · intro hnone
    refine Decidable.byContradiction fun hin => ?_
    obtain ⟨hpos, hle⟩ := not_or.mp hin
    obtain ⟨w, hw⟩ := exists_window? (Nat.pos_of_ne_zero hpos) (Nat.le_of_not_lt hle)
    rw [hnone] at hw
    cases hw
  · intro hout
    rw [window?, if_pos hout]

/-- The windows that contain `index` are the one that is found for it. -/
private theorem filter_contains_windows (s : Schedule) (index : Nat) :
    s.windows.filter (·.contains index) = (s.window? index).toList := by
  have hphases : (s.windows.map (·.phase)).Nodup :=
    (by decide : [Phase.baseline, .forcedFailure, .recovery].Nodup)
  have hnodup : s.windows.Nodup := .of_map _ hphases
  cases hw : s.window? index with
  | none =>
    refine List.filter_eq_nil_iff.mpr fun w hmem hcontains => ?_
    rw [window?_eq_some_iff.mpr ⟨hmem, hcontains⟩] at hw
    cases hw
  | some w =>
    obtain ⟨hmem, hcontains⟩ := contains_of_window? hw
    have honly : ∀ w' ∈ s.windows, w'.contains index = true ↔ w' = w := fun w' hmem' =>
      ⟨fun hcontains' => windows_unique hmem' hmem hcontains' hcontains, fun h => h ▸ hcontains⟩
    rw [List.filter_congr (q := fun w' => w' == w) fun w' hmem' => ?_,
      List.filter_beq, List.count_eq_one_of_mem hnodup hmem]
    · rfl
    · rw [Bool.eq_iff_iff, honly w' hmem', beq_iff_eq]

theorem percentAt?_eq (s : Schedule) (index : Nat) :
    s.percentAt? index = if index = 0 ∨ s.total < index then none
      else some (if s.total / 2 < index ∧ index ≤ s.total / 2 + s.total / 4 then 0
        else s.percent) := by
  rw [percentAt?]
  cases hw : s.window? index with
  | none => rw [if_pos (window?_eq_none_iff.mp hw), Option.map_none]
  | some w =>
    have hin : ¬(index = 0 ∨ s.total < index) := fun hout => by
      rw [window?_eq_none_iff.mpr hout] at hw
      cases hw
    rw [if_neg hin, Option.map_some, (window?_phase_percent hw).2]
    rfl

private theorem finds (s : Schedule) (index : Nat) : s.Finds index :=
  ⟨s.window?_eq_bisect index, window?_eq_none_iff, s.filter_contains_windows index,
    s.percentAt?_eq index⟩

/-! ### Plans -/

theorem exists_plan?_iff {total percent : Int} :
    (∃ s, plan? total percent = .ok s) ↔
      1 ≤ total ∧ total ≤ 4294967295 ∧ 0 ≤ percent ∧ percent ≤ 100 := by
  simp only [plan?_eq_ok_iff, exists_and_left, exists_eq, and_true, and_assoc]
  rfl

/-- **Plans.** A plan is accepted exactly if its number of attempts is positive and fits into a word
and its percentage is one. Its windows then divide the attempts among them (`Partition`), with no
number that overflows, and every attempt is found in the one window that contains it (`Finds`). -/
theorem exists_plan?_iff_and_partition (total percent : Int) :
    ((∃ s, plan? total percent = .ok s) ↔
      1 ≤ total ∧ total ≤ 4294967295 ∧ 0 ≤ percent ∧ percent ≤ 100) ∧
    ∀ s, plan? total percent = .ok s →
      (s.total : Int) = total ∧ (s.percent : Int) = percent ∧ s.Partition ∧
        ∀ index, s.Finds index := by
  refine ⟨exists_plan?_iff, fun s hs => ?_⟩
  obtain ⟨⟨hpos, hle⟩, ⟨hpercent, -⟩, rfl⟩ := plan?_eq_ok_iff.mp hs
  have hpos' : 0 < total.toNat := Int.pos_iff_toNat_pos.mp hpos
  have hle' : total.toNat ≤ maxAttempts := Int.toNat_le.mpr hle
  exact ⟨Int.toNat_of_nonneg (Int.le_of_lt hpos), Int.toNat_of_nonneg hpercent,
    partition_of_total hpos' hle', finds _⟩

end Schedule

end RouterTrial
