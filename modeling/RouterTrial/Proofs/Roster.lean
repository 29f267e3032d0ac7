import Mathlib.Data.List.Induction
import RouterTrial.Directory

/-!
# The names of a roster

Putting an account into a roster keeps the names that are there in their places, and puts a new name
at the end. So a roster that was made by putting in accounts never has a name twice, and the
directory gives no roster without a name. The account under a name is the one that was put in last.
-/

namespace RouterTrial

namespace Roster

/-! ### Names -/

private theorem map_fst_insertIn (name account : String) (entries : List (String × String)) :
    (insertIn name account entries).map (·.1)
      = if name ∈ entries.map (·.1) then entries.map (·.1) else entries.map (·.1) ++ [name] := by
  induction entries with
  | nil => rfl
  | cons entry rest ih =>
    obtain ⟨n, a⟩ := entry
    by_cases hn : n = name
    · simp [insertIn, hn]
    · have hne : name ≠ n := fun h => hn h.symm
      simp only [insertIn, if_neg hn, List.map_cons, ih, List.mem_cons, hne, false_or]
      split <;> rfl

theorem names_insert (r : Roster) (name account : String) :
    (r.insert name account).names = if name ∈ r.names then r.names else r.names ++ [name] :=
  map_fst_insertIn name account r.entries

theorem nodup_names_insert {r : Roster} (h : r.names.Nodup) (name account : String) :
    (r.insert name account).names.Nodup := by
  rw [names_insert]
  split
  · exact h
  · rename_i hnew
    exact (List.perm_append_singleton name r.names).nodup_iff.mpr (List.nodup_cons.mpr ⟨hnew, h⟩)

theorem mem_names_insert (r : Roster) (name account : String) :
    name ∈ (r.insert name account).names := by
  rw [names_insert]
  split
  · assumption
  · simp

/-- The roster of `pairs` has no name twice. -/
theorem nodup_names_ofList (pairs : List (String × String)) : (ofList pairs).names.Nodup := by
  suffices ∀ r : Roster, r.names.Nodup →
      (pairs.foldl (fun r p => r.insert p.1 p.2) r).names.Nodup from this empty List.nodup_nil
  induction pairs with
  | nil => exact fun _ h => h
  | cons p rest ih => exact fun r h => ih _ (nodup_names_insert h p.1 p.2)

/-- The roster of `pairs` has a name if there are any. -/
theorem names_ofList_ne_nil {pairs : List (String × String)} (h : pairs ≠ []) :
    (ofList pairs).names ≠ [] := by
  have hkeep : ∀ (rest : List (String × String)) (r : Roster), r.names ≠ [] →
      (rest.foldl (fun r p => r.insert p.1 p.2) r).names ≠ [] := by
    intro rest
    induction rest with
    | nil => exact fun _ h => h
    | cons p rest ih => exact fun r _ => ih _ (List.ne_nil_of_mem (mem_names_insert r p.1 p.2))
  obtain ⟨p, rest, rfl⟩ := List.exists_cons_of_ne_nil h
  exact hkeep rest _ (List.ne_nil_of_mem (mem_names_insert empty p.1 p.2))

/-- There is no account exactly under a `name` that the roster `r` does not have. -/
theorem account?_eq_none_iff {r : Roster} {name : String} :
    r.account? name = none ↔ name ∉ r.names := by
  rw [account?, List.lookup_eq_none_iff, names, List.mem_map]
  constructor
  · rintro h ⟨entry, hentry, rfl⟩
    have hne := h entry hentry
    simp at hne
  · intro h entry hentry
    rw [bne_iff_ne]
    rintro rfl
    exact h ⟨entry, hentry, rfl⟩

/-! ### Accounts -/

/-- The comparison that a search for `name` makes tells whether the names are equal. -/
theorem lookup_cons_eq (n a name : String) (rest : List (String × String)) :
    List.lookup name ((n, a) :: rest) = if name = n then some a else rest.lookup name := by
  rw [List.lookup_cons]
  by_cases hname : name = n
  · rw [if_pos hname, beq_iff_eq.mpr hname]
  · rw [if_neg hname, beq_eq_false_iff_ne.mpr hname]

private theorem lookup_insertIn (name account other : String) (entries : List (String × String)) :
    (insertIn name account entries).lookup other
      = if other = name then some account else entries.lookup other := by
  induction entries with
  | nil => rw [insertIn, lookup_cons_eq]
  | cons entry rest ih =>
    obtain ⟨n, a⟩ := entry
    rw [insertIn]
    by_cases hn : n = name
    · rw [if_pos hn, lookup_cons_eq, lookup_cons_eq, hn]
      split <;> rfl
    · rw [if_neg hn, lookup_cons_eq, ih, lookup_cons_eq]
      -- an entry that is passed over has another name than the one that is put in
      by_cases hother : other = n
      · rw [if_pos hother, if_neg fun h => hn (hother.symm.trans h), if_pos hother]
      · rw [if_neg hother, if_neg hother]

/-- An `account` that is put in stands under its `name` and changes no other one. -/
theorem account?_insert (r : Roster) (name account other : String) :
    (r.insert name account).account? other
      = if other = name then some account else r.account? other :=
  lookup_insertIn name account other r.entries

theorem ofList_append_singleton (pairs : List (String × String)) (p : String × String) :
    ofList (pairs ++ [p]) = (ofList pairs).insert p.1 p.2 := by
  rw [ofList, List.foldl_append]
  rfl

/-- The account under `name` is that of the last of `pairs` with the name. -/
theorem account?_ofList (pairs : List (String × String)) (name : String) :
    (ofList pairs).account? name = ((pairs.filter fun p => p.1 = name).getLast?).map (·.2) := by
  induction pairs using List.reverseRecOn with
  | nil => rfl
  | append_singleton pairs p ih =>
    rw [ofList_append_singleton, account?_insert, ih, List.filter_append]
    by_cases hname : name = p.1
    · simp [hname]
    · simp [hname, Ne.symm hname]

/-- An `account` that a roster has under `name` is one that was put in under it. -/
theorem mem_of_account?_ofList {pairs : List (String × String)} {name account : String}
    (h : (ofList pairs).account? name = some account) : (name, account) ∈ pairs := by
  rw [account?_ofList, Option.map_eq_some_iff] at h
  obtain ⟨⟨n, a⟩, hlast, rfl⟩ := h
  obtain ⟨hmem, hname⟩ := List.mem_filter.mp (List.mem_of_getLast? hlast)
  obtain rfl : n = name := of_decide_eq_true hname
  exact hmem

end Roster

/-! ### Directories -/

namespace Directory

/-- What follows from the `answer` of a source is a roster with different names, at least one. -/
private theorem names_of_conclude {profile : String} {answer : Except Fault (List Listing)}
    {roster : Roster} (h : (conclude profile answer).1 = .ok roster) :
    roster.names ≠ [] ∧ roster.names.Nodup := by
  unfold conclude at h
  simp only at h
  split at h
  · cases h
  · rename_i hne
    obtain rfl := Except.ok.inj h
    refine ⟨fun hnil => hne ?_, Roster.nodup_names_ofList _⟩
    simpa [Roster.names, Roster.isEmpty] using hnil

/-- The roster of the directory `d` has different names, at least one. -/
theorem names_of_resolve {σ : Type} {d : Directory (StateM σ)} {s : σ} {roster : Roster}
    (h : (d.resolve s).1.1 = .ok roster) : roster.names ≠ [] ∧ roster.names.Nodup := by
  by_cases hfixed : d.fixed.isEmpty = true
  · cases hsource : d.source with
    | none =>
      simp only [resolve, hfixed, if_true, hsource] at h
      cases h
    | some ask =>
      simp only [resolve, hfixed, if_true, hsource] at h
      exact names_of_conclude h
  · simp only [resolve, if_neg hfixed] at h
    obtain rfl : Roster.ofList d.fixed = roster := Except.ok.inj h
    refine ⟨Roster.names_ofList_ne_nil fun hnil => hfixed ?_, Roster.nodup_names_ofList _⟩
    rw [hnil, List.isEmpty_nil]

end Directory

end RouterTrial
