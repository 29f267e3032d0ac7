/-!
# Rosters

The connectors that a trial can use, each with the account that its payments go to. Connectors keep
the place at which they were first put in; a later account takes the place of an earlier one.
-/

namespace RouterTrial

/-- The connectors with their accounts, in order. -/
structure Roster where
  entries : List (String × String)
  deriving Repr, DecidableEq

namespace Roster

/-- The roster without connectors. -/
def empty : Roster := ⟨[]⟩

instance : Inhabited Roster := ⟨empty⟩

/-- The entries with `account` under `name`: in its old place, or at the end. -/
def insertIn (name account : String) : List (String × String) → List (String × String)
  | [] => [(name, account)]
  | (n, a) :: rest =>
    if n = name then (n, account) :: rest else (n, a) :: insertIn name account rest

/-- The roster `r` with `account` under `name`. -/
def insert (r : Roster) (name account : String) : Roster := ⟨insertIn name account r.entries⟩

/-- The roster of the `pairs` of names and accounts. -/
def ofList (pairs : List (String × String)) : Roster :=
  pairs.foldl (fun r p => r.insert p.1 p.2) empty

/-- The account that the roster `r` has under `name`. -/
def account? (r : Roster) (name : String) : Option String := r.entries.lookup name

/-- The names of the roster `r` in order. -/
def names (r : Roster) : List String := r.entries.map (·.1)

/-- The number of connectors of the roster `r`. -/
def size (r : Roster) : Nat := r.entries.length

/-- The roster `r` has no connectors. -/
def isEmpty (r : Roster) : Bool := r.entries.isEmpty

end Roster

end RouterTrial
