/-!
# Tables sorted by key

A finite table as the list of its entries in ascending order of their keys, each key once. Entries
are only ever put in their place (`alter`), so a table made by these operations is sorted.
-/

namespace RouterTrial

/-- A finite table, as the list of its entries. -/
structure Table (κ ν : Type) where
  entries : List (κ × ν)
  deriving Repr, DecidableEq

namespace Table

variable {κ ν μ : Type}

/-- The table without entries. -/
def empty : Table κ ν := ⟨[]⟩

instance : Inhabited (Table κ ν) := ⟨empty⟩

/-- The table `t` has no entry. -/
def isEmpty (t : Table κ ν) : Bool := t.entries.isEmpty

/-- The keys of the table `t` in ascending order. -/
def keys (t : Table κ ν) : List κ := t.entries.map (·.1)

/-- The table `t` with each value replaced by what `f` makes of it. -/
def mapValues (f : ν → μ) (t : Table κ ν) : Table κ μ := ⟨t.entries.map fun e => (e.1, f e.2)⟩

section Order

variable [Ord κ]

/-- The value under `key`, in a list of entries. -/
def findIn (key : κ) : List (κ × ν) → Option ν
  | [] => none
  | (k, v) :: rest => if (compare key k).isEq then some v else findIn key rest

/-- The value under `key` in the table `t`. -/
def find? (t : Table κ ν) (key : κ) : Option ν := findIn key t.entries

/-- The entries with the value under `key` replaced, or put in before the first larger key. -/
def alterIn (key : κ) (f : Option ν → ν) : List (κ × ν) → List (κ × ν)
  | [] => [(key, f none)]
  | (k, v) :: rest =>
    match compare key k with
    | .lt => (key, f none) :: (k, v) :: rest
    | .eq => (k, f (some v)) :: rest
    | .gt => (k, v) :: alterIn key f rest

/-- The table `t` with the value under `key` replaced by what `f` makes of it. -/
def alter (t : Table κ ν) (key : κ) (f : Option ν → ν) : Table κ ν := ⟨alterIn key f t.entries⟩

/-- The table `t` with `value` put under `key`, whatever stood there. -/
def insert (t : Table κ ν) (key : κ) (value : ν) : Table κ ν := t.alter key fun _ => value

/-- The table of the list `entries`, the last one of a key winning. -/
def ofList (entries : List (κ × ν)) : Table κ ν :=
  entries.foldl (fun t e => t.insert e.1 e.2) empty

end Order

end Table

end RouterTrial
