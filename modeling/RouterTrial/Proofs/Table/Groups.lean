import Mathlib.Algebra.Ring.Nat
import Mathlib.Data.List.Induction
import RouterTrial.Proofs.Table

/-!
# Tables of groups

A table that is only ever altered has its keys in ascending order (`Sorted.alter`), and then an
alteration changes what stands under its key and nothing else (`Sorted.find?_alter`).

So a table that is filled from a list, one element after the other, has an entry for each key that
occurs in the list and for no other, and the value of the entry has gone through the elements with
its key and through no others (`groups_gather`). A weight that each element adds to its entry adds
up over the table as it does over the list (`sum_gather`). A list that has its keys in ascending
order already is the table that it fills (`entries_ofList`).
-/

namespace RouterTrial

namespace Table

variable {κ ν α : Type} [Ord κ]

/-! ### Filling a table -/

/-- The table of the list `xs`: `add` puts each element to what stands under its `key`. -/
def gather (key : α → κ) (start : ν) (add : ν → α → ν) (xs : List α) : Table κ ν :=
  xs.foldl (fun t a => t.alter (key a) fun old => add (old.getD start) a) empty

private theorem gather_append_singleton (key : α → κ) (start : ν) (add : ν → α → ν) (xs : List α)
    (a : α) :
    gather key start add (xs ++ [a])
      = (gather key start add xs).alter (key a) fun old => add (old.getD start) a := by
  rw [gather, List.foldl_append]
  rfl

private theorem sum_alterIn {weight : ν → Nat} {f : Option ν → ν} {c : Nat}
    (hf : ∀ old, weight (f old) = old.elim 0 weight + c) (key : κ) (entries : List (κ × ν)) :
    ((alterIn key f entries).map fun e => weight e.2).sum
      = (entries.map fun e => weight e.2).sum + c := by
  induction entries with
  | nil => simp [alterIn, hf]
  | cons entry rest ih =>
    rw [alterIn]
    cases compare key entry.1 with
    | lt => simp only [List.map_cons, List.sum_cons, hf, Option.elim_none]; omega
    | eq => simp only [List.map_cons, List.sum_cons, hf, Option.elim_some]; omega
    | gt => simp only [List.map_cons, List.sum_cons, ih]; omega

/-- **Sums.** The weights that the elements add to their entries, `c` of each, add up over the
table. -/
theorem sum_gather {weight : ν → Nat} {start : ν} {add : ν → α → ν} {c : α → Nat}
    (hstart : weight start = 0) (hadd : ∀ v a, weight (add v a) = weight v + c a) (key : α → κ)
    (xs : List α) :
    ((gather key start add xs).entries.map fun e => weight e.2).sum = (xs.map c).sum := by
  induction xs using List.reverseRecOn with
  | nil => rfl
  | append_singleton xs a ih =>
    have hf : ∀ old : Option ν,
        weight (add (old.getD start) a) = old.elim 0 weight + c a := by
      intro old
      rw [hadd]
      cases old with
      | none => rw [Option.getD_none, hstart, Option.elim_none]
      | some v => rw [Option.getD_some, Option.elim_some]
    rw [gather_append_singleton, alter, sum_alterIn hf, ih, List.map_append, List.sum_append,
      List.map_singleton, List.sum_singleton]

/-! ### Keys in order -/

/-- The keys of the table `t` are in ascending order, each of them once. -/
def Sorted (t : Table κ ν) : Prop := t.keys.Pairwise fun k k' => compare k k' = .lt

instance (t : Table κ ν) : Decidable t.Sorted := inferInstanceAs (Decidable (List.Pairwise _ _))

theorem sorted_empty : (empty : Table κ ν).Sorted := List.Pairwise.nil

section Keys

variable [Std.LawfulEqOrd κ]

private theorem mem_map_fst_alterIn {key k' : κ} {f : Option ν → ν} {entries : List (κ × ν)} :
    k' ∈ (alterIn key f entries).map (·.1) ↔ k' = key ∨ k' ∈ entries.map (·.1) := by
  induction entries with
  | nil => simp [alterIn]
  | cons entry rest ih =>
    obtain ⟨k, v⟩ := entry
    rw [alterIn]
    cases hcompare : compare key k with
    | lt => rw [List.map_cons, List.mem_cons]
    | eq =>
      obtain rfl : key = k := Std.LawfulEqOrd.compare_eq_iff_eq.mp hcompare
      simp only [List.map_cons, List.mem_cons, or_self_left]
    | gt =>
      simp only [List.map_cons, List.mem_cons, ih]
      exact or_left_comm

theorem mem_keys_alter {t : Table κ ν} {key k' : κ} {f : Option ν → ν} :
    k' ∈ (t.alter key f).keys ↔ k' = key ∨ k' ∈ t.keys := mem_map_fst_alterIn

/-- The keys of a table that is filled from the list `xs` are those that occur in `xs`. -/
theorem mem_keys_gather {key : α → κ} {start : ν} {add : ν → α → ν} {xs : List α} {k : κ} :
    k ∈ (gather key start add xs).keys ↔ ∃ a ∈ xs, key a = k := by
  induction xs using List.reverseRecOn with
  | nil => exact ⟨nofun, fun ⟨_, ha, _⟩ => absurd ha List.not_mem_nil⟩
  | append_singleton xs a ih =>
    rw [gather_append_singleton, mem_keys_alter, ih]
    simp only [List.mem_append, List.mem_singleton, or_and_right, exists_or, exists_eq_left]
    rw [or_comm, eq_comm]

/-- The key `key` comes before none that is the same. -/
private theorem notMem_of_forall_lt {key : κ} {keys : List κ}
    (h : ∀ k ∈ keys, compare key k = .lt) : key ∉ keys := fun hmem => by
  have hlt := h key hmem
  rw [Std.LawfulEqOrd.compare_eq_iff_eq.mpr rfl] at hlt
  cases hlt

theorem Sorted.nodup_keys {t : Table κ ν} (h : t.Sorted) : t.keys.Nodup :=
  h.imp fun {k k'} hlt heq => by
    rw [Std.LawfulEqOrd.compare_eq_iff_eq.mpr heq] at hlt
    cases hlt

variable [DecidableEq κ]

theorem findIn_eq_none_iff {key : κ} {entries : List (κ × ν)} :
    findIn key entries = none ↔ key ∉ entries.map (·.1) := by
  induction entries with
  | nil => simp [findIn]
  | cons entry rest ih =>
    rw [findIn_cons, List.map_cons, List.mem_cons, not_or]
    split
    · rename_i hkey
      refine ⟨fun h => ?_, fun h => absurd hkey h.1⟩
      cases h
    · rename_i hkey
      exact ih.trans ⟨fun h => ⟨hkey, h⟩, And.right⟩

/-- Something stands under the keys of the table `t` and under no others. -/
theorem mem_keys_iff {t : Table κ ν} {key : κ} :
    key ∈ t.keys ↔ ∃ value, t.find? key = some value := by
  rw [← Option.ne_none_iff_exists', ne_eq, find?, findIn_eq_none_iff, not_not, keys]

/-- In a `Sorted` table a key is found with the value of its entry. -/
theorem Sorted.mem_entries_iff {t : Table κ ν} (h : t.Sorted) {key : κ} {value : ν} :
    (key, value) ∈ t.entries ↔ t.find? key = some value := by
  obtain ⟨entries⟩ := t
  induction entries with
  | nil => exact ⟨nofun, nofun⟩
  | cons entry rest ih =>
    obtain ⟨k, v⟩ := entry
    obtain ⟨hfirst, hrest⟩ := List.pairwise_cons.mp h
    rw [find?, findIn_cons, List.mem_cons]
    split
    · rename_i hkey
      subst hkey
      -- the keys behind it are larger, so the entry is the first one
      have hnot : (key, value) ∉ rest := fun hmem =>
        notMem_of_forall_lt hfirst (List.mem_map.mpr ⟨_, hmem, rfl⟩)
      simp only [hnot, or_false, Prod.mk.injEq, true_and, Option.some.injEq, eq_comm]
    · rename_i hkey
      have hne : (key, value) ≠ (k, v) := fun heq => hkey (Prod.mk.inj heq).1
      rw [or_iff_right hne]
      exact ih hrest

end Keys

section Sorted

variable [Std.TransOrd κ] [Std.LawfulEqOrd κ]

private theorem pairwise_alterIn {key : κ} {f : Option ν → ν} {entries : List (κ × ν)}
    (h : (entries.map (·.1)).Pairwise fun k k' => compare k k' = .lt) :
    ((alterIn key f entries).map (·.1)).Pairwise fun k k' => compare k k' = .lt := by
  induction entries with
  | nil => exact List.pairwise_singleton _ key
  | cons entry rest ih =>
    obtain ⟨k, v⟩ := entry
    obtain ⟨hfirst, hrest⟩ := List.pairwise_cons.mp h
    rw [alterIn]
    cases hcompare : compare key k with
    | lt =>
      refine List.pairwise_cons.mpr ⟨fun k' hk' => ?_, h⟩
      rcases List.mem_cons.mp hk' with rfl | hk'
      · exact hcompare
      · exact Std.TransCmp.lt_trans hcompare (hfirst k' hk')
    | eq => exact List.pairwise_cons.mpr ⟨hfirst, hrest⟩
    | gt =>
      refine List.pairwise_cons.mpr ⟨fun k' hk' => ?_, ih hrest⟩
      rcases mem_map_fst_alterIn.mp hk' with rfl | hk'
      · exact Std.OrientedCmp.gt_iff_lt.mp hcompare
      · exact hfirst k' hk'

/-- An alteration keeps the keys in order: the table stays `Sorted`. -/
theorem Sorted.alter {t : Table κ ν} (h : t.Sorted) (key : κ) (f : Option ν → ν) :
    (t.alter key f).Sorted := pairwise_alterIn h

/-- The keys of a table that is filled from a list by `gather` are in order. -/
theorem sorted_gather (key : α → κ) (start : ν) (add : ν → α → ν) (xs : List α) :
    (gather key start add xs).Sorted := by
  induction xs using List.reverseRecOn with
  | nil => exact sorted_empty
  | append_singleton xs a ih =>
    rw [gather_append_singleton]
    exact ih.alter _ _

variable [DecidableEq κ]

/-- Where the keys are in order, an alteration finds what stands under its `key`. -/
private theorem metIn_of_pairwise {entries : List (κ × ν)}
    (h : (entries.map (·.1)).Pairwise fun k k' => compare k k' = .lt) (key : κ) :
    metIn key entries = findIn key entries := by
  induction entries with
  | nil => rw [metIn, findIn]
  | cons entry rest ih =>
    obtain ⟨k, v⟩ := entry
    obtain ⟨hfirst, hrest⟩ := List.pairwise_cons.mp h
    rw [metIn]
    cases hcompare : compare key k with
    | lt =>
      -- the key comes before all others, so nothing stands under it
      have hbefore : ∀ k' ∈ ((k, v) :: rest).map (·.1), compare key k' = .lt := by
        intro k' hk'
        rcases List.mem_cons.mp hk' with rfl | hk'
        · exact hcompare
        · exact Std.TransCmp.lt_trans hcompare (hfirst k' hk')
      exact (findIn_eq_none_iff.mpr (notMem_of_forall_lt hbefore)).symm
    | eq => rw [findIn_cons, if_pos (Std.LawfulEqOrd.compare_eq_iff_eq.mp hcompare)]
    | gt =>
      have hne : key ≠ k := fun heq => by
        rw [Std.LawfulEqOrd.compare_eq_iff_eq.mpr heq] at hcompare
        cases hcompare
      rw [findIn_cons, if_neg hne]
      exact ih hrest

/-- In a `Sorted` table an alteration changes what stands under its `key` and nothing else. -/
theorem Sorted.find?_alter {t : Table κ ν} (h : t.Sorted) (key other : κ) (f : Option ν → ν) :
    (t.alter key f).find? other
      = if other = key then some (f (t.find? key)) else t.find? other := by
  rw [find?, Table.alter, findIn_alterIn, metIn_of_pairwise h]
  rfl

/-! ### Groups -/

/-- The table `t` has an entry for each key that occurs in the list `xs`, in ascending order, and
its value is right for the elements with the key, which are in the order of the list. -/
structure Groups (key : α → κ) (xs : List α) (right : List α → ν → Prop) (t : Table κ ν) :
    Prop where
  sorted : t.Sorted
  mem_keys : ∀ k, k ∈ t.keys ↔ ∃ a ∈ xs, key a = k
  right : ∀ e ∈ t.entries, right (xs.filter fun a => key a = e.1) e.2

/-- What stands under the key `k` has gone through the elements with the key. -/
theorem getD_find?_gather (key : α → κ) (start : ν) (add : ν → α → ν) (xs : List α) (k : κ) :
    ((gather key start add xs).find? k).getD start
      = (xs.filter fun a => key a = k).foldl add start := by
  induction xs using List.reverseRecOn with
  | nil => rfl
  | append_singleton xs a ih =>
    rw [gather_append_singleton, (sorted_gather key start add xs).find?_alter, List.filter_append,
      List.foldl_append, ← ih]
    by_cases hkey : key a = k
    · rw [if_pos hkey.symm, List.filter_cons, if_pos (decide_eq_true hkey), hkey]
      rfl
    · rw [if_neg (Ne.symm hkey), List.filter_cons, if_neg (by simpa using hkey)]
      rfl

/-- **Groups.** A table that is filled from a list has an entry for each key that occurs in it, with
what the elements with the key come to by `add`. -/
theorem groups_gather (key : α → κ) (start : ν) (add : ν → α → ν) (xs : List α) :
    (gather key start add xs).Groups key xs fun group value =>
      group ≠ [] ∧ value = group.foldl add start := by
  have hsorted := sorted_gather key start add xs
  refine ⟨hsorted, fun k => mem_keys_gather, fun e he => ⟨?_, ?_⟩⟩
  · obtain ⟨a, ha, hkey⟩ := mem_keys_gather.mp (List.mem_map_of_mem he)
    exact List.ne_nil_of_mem (List.mem_filter.mpr ⟨ha, decide_eq_true hkey⟩)
  · rw [← getD_find?_gather, hsorted.mem_entries_iff.mp he, Option.getD_some]

end Sorted

/-- What stands under the key `k` is right for the elements with the key. -/
theorem Groups.right_of_find? [Std.LawfulEqOrd κ] [DecidableEq κ] {key : α → κ} {xs : List α}
    {right : List α → ν → Prop} {t : Table κ ν} (h : t.Groups key xs right) {k : κ} {value : ν}
    (hfind : t.find? k = some value) : right (xs.filter fun a => key a = k) value :=
  h.right _ (h.sorted.mem_entries_iff.mpr hfind)

/-- Values that `f` makes of right ones are right in their own way for the same groups. -/
theorem Groups.mapValues {μ : Type} [DecidableEq κ] {key : α → κ} {xs : List α}
    {right : List α → ν → Prop} {right' : List α → μ → Prop} {t : Table κ ν}
    (h : t.Groups key xs right) (f : ν → μ)
    (hf : ∀ group value, right group value → right' group (f value)) :
    (t.mapValues f).Groups key xs right' := by
  have hkeys : (t.mapValues f).keys = t.keys := by
    rw [keys, keys, Table.mapValues, List.map_map]
    rfl
  refine ⟨?_, fun k => ?_, fun e he => ?_⟩
  · rw [Sorted, hkeys]
    exact h.sorted
  · rw [hkeys]
    exact h.mem_keys k
  · obtain ⟨e', he', rfl⟩ := List.mem_map.mp he
    exact hf _ _ (h.right e' he')

/-! ### Tables of lists -/

section Lists

variable [Std.OrientedOrd κ]

/-- An entry whose `key` is larger than all others comes last. -/
private theorem alterIn_of_forall_lt {key : κ} {f : Option ν → ν} {entries : List (κ × ν)}
    (h : ∀ e ∈ entries, compare e.1 key = .lt) :
    alterIn key f entries = entries ++ [(key, f none)] := by
  induction entries with
  | nil => rfl
  | cons entry rest ih =>
    obtain ⟨hentry, hrest⟩ := List.forall_mem_cons.mp h
    rw [alterIn, Std.OrientedCmp.gt_iff_lt.mpr hentry, List.cons_append, ← ih hrest]

/-- A list of `entries` whose keys are in order is the table that is made of it. -/
theorem entries_ofList {entries : List (κ × ν)}
    (h : entries.Pairwise fun e e' => compare e.1 e'.1 = .lt) :
    (ofList entries).entries = entries := by
  induction entries using List.reverseRecOn with
  | nil => rfl
  | append_singleton rest e ih =>
    obtain ⟨hrest, -, hlast⟩ := List.pairwise_append.mp h
    rw [ofList, List.foldl_append]
    change alterIn e.1 (fun _ => e.2) (ofList rest).entries = _
    rw [ih hrest]
    exact alterIn_of_forall_lt fun e' he' => hlast e' he' e List.mem_cons_self

end Lists

end Table

end RouterTrial
