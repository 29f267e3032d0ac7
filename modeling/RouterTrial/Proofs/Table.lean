import RouterTrial.Table

/-!
# Looking up in tables

What is found under a key after an entry has been put in: the new value under its key, and under
every other key what was found before. Nothing here needs the entries to be in order.
-/

namespace RouterTrial

namespace Table

variable {κ ν : Type} [Ord κ]

@[simp]
theorem find?_empty (key : κ) : (empty : Table κ ν).find? key = none := rfl

variable [Std.LawfulEqOrd κ] [DecidableEq κ]

/-- The comparison that a search for `key` makes tells whether the keys are equal. -/
theorem findIn_cons (key k : κ) (v : ν) (rest : List (κ × ν)) :
    findIn key ((k, v) :: rest) = if key = k then some v else findIn key rest := by
  have hcompare : (compare key k).isEq = true ↔ key = k := by
    rw [Ordering.isEq_iff_eq_eq, Std.LawfulEqOrd.compare_eq_iff_eq]
  simp only [findIn, hcompare]

/-- What an alteration finds under `key`: it looks no further than the first larger key. -/
def metIn (key : κ) : List (κ × ν) → Option ν
  | [] => none
  | (k, v) :: rest =>
    match compare key k with
    | .lt => none
    | .eq => some v
    | .gt => metIn key rest

theorem findIn_alterIn (key other : κ) (f : Option ν → ν) (entries : List (κ × ν)) :
    findIn other (alterIn key f entries)
      = if other = key then some (f (metIn key entries)) else findIn other entries := by
  induction entries with
  | nil => rw [alterIn, findIn_cons, metIn]
  | cons entry rest ih =>
    obtain ⟨k, v⟩ := entry
    rw [alterIn, metIn]
    cases hcompare : compare key k with
    | lt => rw [findIn_cons]
    | eq =>
      obtain rfl : key = k := Std.LawfulEqOrd.compare_eq_iff_eq.mp hcompare
      rw [findIn_cons, findIn_cons]
      split <;> rfl
    | gt =>
      -- the entry comes further on, so the key that is passed over is another one
      have hne : key ≠ k := fun h => by
        rw [Std.LawfulEqOrd.compare_eq_iff_eq.mpr h] at hcompare
        cases hcompare
      rw [findIn_cons, ih, findIn_cons]
      by_cases hother : other = k
      · rw [if_pos hother, if_neg (hother ▸ hne.symm), if_pos hother]
      · rw [if_neg hother, if_neg hother]

/-- A `value` that is put in stands under its `key` and changes nothing else. -/
theorem find?_insert (t : Table κ ν) (key other : κ) (value : ν) :
    (t.insert key value).find? other = if other = key then some value else t.find? other :=
  findIn_alterIn key other (fun _ => value) t.entries

end Table

end RouterTrial
