import Mathlib.Data.Finset.Card
import RouterTrial.Proofs.Roster

/-!
# What a roster was made of

A roster is a list of entries, and nothing but the search before an account is put in keeps a name
from standing in it twice. `Roster.Keeps` says what a roster has of the pairs that were put into
it, the first ones at once and the others one by one: their names in the order in which they came
first, and under each of them the account that came last. Nothing else of the pairs can be told from
the roster (`Roster.keeps_and_insert_and_eq`).
-/

namespace RouterTrial

namespace Roster

/-- The roster `r` with the accounts of `pairs`, put in one after the other. -/
def insertAll (r : Roster) (pairs : List (String × String)) : Roster :=
  pairs.foldl (fun r p => r.insert p.1 p.2) r

private theorem insertAll_ofList (pairs more : List (String × String)) :
    (ofList pairs).insertAll more = ofList (pairs ++ more) := by
  rw [insertAll, ofList, ofList, List.foldl_append]

/-! ### The order of the names -/

/-- The names of `pairs` stand in the order in which they were put in first. -/
theorem names_ofList (pairs : List (String × String)) :
    (ofList pairs).names = (pairs.map (·.1)).eraseDups := by
  induction pairs using List.reverseRecOn with
  | nil => rfl
  | append_singleton pairs p ih =>
    have hmem : p.1 ∈ (pairs.map (·.1)).eraseDups ↔ p.1 ∈ pairs.map (·.1) := List.mem_eraseDups
    rw [ofList_append_singleton, names_insert, ih, List.map_append, List.map_singleton,
      List.eraseDups_append]
    by_cases hname : p.1 ∈ pairs.map (·.1)
    · rw [if_pos (hmem.mpr hname)]
      simp [List.removeAll, hname]
    · rw [if_neg (mt hmem.mp hname)]
      simp [List.removeAll, hname, List.eraseDups_cons]

theorem mem_names_ofList {pairs : List (String × String)} {name : String} :
    name ∈ (ofList pairs).names ↔ name ∈ pairs.map (·.1) := by
  rw [names_ofList, List.mem_eraseDups]

/-- The name `other` keeps its place when an account is put in. -/
private theorem getElem?_names_insert {r : Roster} {i : Nat} {other : String}
    (h : r.names[i]? = some other) (name account : String) :
    (r.insert name account).names[i]? = some other := by
  rw [names_insert]
  split
  · exact h
  · rw [List.getElem?_append_left (List.getElem?_eq_some_iff.mp h).1, h]

/-! ### The last accounts -/

/-- This is the last `account` that `pairs` have under `name`. -/
def LastAccount (pairs : List (String × String)) (name account : String) : Prop :=
  ∃ before behind, pairs = before ++ (name, account) :: behind ∧ name ∉ behind.map (·.1)

private theorem lastAccount_append_singleton {pairs : List (String × String)} {p : String × String}
    {name account : String} :
    LastAccount (pairs ++ [p]) name account ↔
      if name = p.1 then account = p.2 else LastAccount pairs name account := by
  constructor
  · rintro ⟨before, behind, hpairs, hbehind⟩
    rcases List.eq_nil_or_concat' behind with rfl | ⟨behind, q, rfl⟩
    · obtain ⟨-, hp⟩ := List.append_inj' hpairs rfl
      obtain rfl := List.singleton_inj.mp hp
      rw [if_pos rfl]
    · rw [← List.cons_append, ← List.append_assoc] at hpairs
      obtain ⟨hinit, hp⟩ := List.append_inj' hpairs rfl
      obtain rfl := List.singleton_inj.mp hp
      rw [List.map_append, List.mem_append, not_or] at hbehind
      rw [if_neg fun hname => hbehind.2 (List.mem_singleton.mpr hname)]
      exact ⟨before, behind, hinit, hbehind.1⟩
  · by_cases hname : name = p.1
    · rw [if_pos hname]
      intro haccount
      refine ⟨pairs, [], ?_, List.not_mem_nil⟩
      rw [hname, haccount]
    · rw [if_neg hname]
      rintro ⟨before, behind, rfl, hbehind⟩
      refine ⟨before, behind ++ [p], by rw [List.append_assoc, List.cons_append], ?_⟩
      rw [List.map_append, List.mem_append, not_or]
      exact ⟨hbehind, fun hmem => hname (List.mem_singleton.mp hmem)⟩

/-- The `account` under `name` is the one that was put in last. -/
theorem account?_ofList_eq_some_iff {pairs : List (String × String)} {name account : String} :
    (ofList pairs).account? name = some account ↔ LastAccount pairs name account := by
  induction pairs using List.reverseRecOn with
  | nil =>
    refine iff_of_false nofun ?_
    rintro ⟨before, behind, hnil, -⟩
    exact List.append_ne_nil_of_right_ne_nil before (List.cons_ne_nil _ _) hnil.symm
  | append_singleton pairs p ih =>
    rw [ofList_append_singleton, account?_insert, lastAccount_append_singleton]
    by_cases hname : name = p.1
    · rw [if_pos hname, if_pos hname, Option.some.injEq, eq_comm]
    · rw [if_neg hname, if_neg hname, ih]

/-! ### Rosters and their pairs -/

/-- What the roster `r` has of the `pairs` that were put into it. -/
structure Keeps (pairs : List (String × String)) (r : Roster) : Prop where
  nodup : r.names.Nodup
  /-- The names are in the order in which they came first. -/
  names : r.names = (pairs.map (·.1)).eraseDups
  account_iff : ∀ name account, r.account? name = some account ↔ LastAccount pairs name account
  exists_account_iff : ∀ name, (∃ account, r.account? name = some account) ↔ name ∈ r.names
  /-- The size is the number of different names. -/
  size : r.size = (pairs.map (·.1)).toFinset.card
  isEmpty_iff : r.isEmpty = true ↔ pairs = []

theorem keeps_ofList (pairs : List (String × String)) : Keeps pairs (ofList pairs) where
  nodup := nodup_names_ofList pairs
  names := names_ofList pairs
  account_iff _ _ := account?_ofList_eq_some_iff
  exists_account_iff name := by
    rw [← Option.ne_none_iff_exists', ne_eq, account?_eq_none_iff, not_not]
  size := by
    have hset : (ofList pairs).names.toFinset = (pairs.map (·.1)).toFinset := by
      ext name
      rw [List.mem_toFinset, List.mem_toFinset, mem_names_ofList]
    rw [← hset, List.toFinset_card_of_nodup (nodup_names_ofList pairs), Roster.size, Roster.names,
      List.length_map]
  isEmpty_iff := by
    have hnames : (ofList pairs).names = [] ↔ pairs = [] := by
      refine ⟨fun h => ?_, fun h => h ▸ rfl⟩
      by_contra hne
      exact names_ofList_ne_nil hne h
    rw [isEmpty, List.isEmpty_iff, ← hnames, Roster.names, List.map_eq_nil_iff]

/-- The roster `r` without a name twice has an entry for each name, with its account. -/
private theorem entries_eq_map {r : Roster} (h : r.names.Nodup) :
    r.entries = r.names.map fun name => (name, (r.account? name).getD "") := by
  obtain ⟨entries⟩ := r
  simp only [Roster.names, account?] at h ⊢
  induction entries with
  | nil => rfl
  | cons entry rest ih =>
    obtain ⟨n, a⟩ := entry
    rw [List.map_cons, List.nodup_cons] at h
    have hrest : (rest.map (·.1)).map (fun name => (name, (rest.lookup name).getD ""))
        = (rest.map (·.1)).map fun name => (name, (((n, a) :: rest).lookup name).getD "") := by
      refine List.map_congr_left fun name hname => ?_
      have hne : name ≠ n := fun heq => h.1 (heq ▸ hname)
      rw [lookup_cons_eq, if_neg hne]
    rw [List.map_cons, List.map_cons, ← hrest, ← ih h.2, lookup_cons_eq, if_pos rfl,
      Option.getD_some]

/-- Pairs with the same order of names and the same last accounts (`LastAccount`) make the same
roster. -/
theorem Keeps.eq {pairs pairs' : List (String × String)} {r r' : Roster} (h : Keeps pairs r)
    (h' : Keeps pairs' r')
    (hnames : (pairs.map (·.1)).eraseDups = (pairs'.map (·.1)).eraseDups)
    (haccounts : ∀ name account,
      LastAccount pairs name account ↔ LastAccount pairs' name account) : r = r' := by
  have haccount : ∀ name, r.account? name = r'.account? name := by
    intro name
    refine Option.ext fun account => ?_
    rw [h.account_iff, h'.account_iff, haccounts]
  have hentries : r.entries = r'.entries := by
    rw [entries_eq_map h.nodup, entries_eq_map h'.nodup, h.names, h'.names, hnames]
    simp only [haccount]
  exact congrArg Roster.mk hentries

/-- **Rosters.** Whatever is put into a roster, it `Keeps` the order in which the names came first
and the account that came last under each of them, and that is all it keeps. An account that is put
in changes no other account and no place of a name that is there. -/
theorem keeps_and_insert_and_eq (pairs more : List (String × String)) :
    Keeps (pairs ++ more) ((ofList pairs).insertAll more) ∧
      (∀ name account,
        (∀ other, other ≠ name →
          (((ofList pairs).insertAll more).insert name account).account? other
            = ((ofList pairs).insertAll more).account? other) ∧
        ∀ (i : Nat) (other : String), ((ofList pairs).insertAll more).names[i]? = some other →
          (((ofList pairs).insertAll more).insert name account).names[i]? = some other) ∧
      ∀ pairs' more' : List (String × String),
        ((pairs ++ more).map (·.1)).eraseDups = ((pairs' ++ more').map (·.1)).eraseDups →
        (∀ name account,
          LastAccount (pairs ++ more) name account ↔ LastAccount (pairs' ++ more') name account) →
        (ofList pairs).insertAll more = (ofList pairs').insertAll more' := by
  simp only [insertAll_ofList]
  refine ⟨keeps_ofList _, fun name account => ⟨fun other hother => ?_, fun i other hplace => ?_⟩,
    fun pairs' more' hnames haccounts => ?_⟩
  · rw [account?_insert, if_neg hother]
  · exact getElem?_names_insert hplace name account
  · exact (keeps_ofList _).eq (keeps_ofList _) hnames haccounts

/-- A name that comes again keeps its place and takes the later account. -/
example : (ofList [("b", "1"), ("a", "2")]).insertAll [("b", "3"), ("c", "4")]
    = ⟨[("b", "3"), ("a", "2"), ("c", "4")]⟩ := by decide

end Roster

end RouterTrial
