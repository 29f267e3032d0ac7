/-!
# JSON values

The values that are written into requests and reports, and that texts are read as. Numbers come in
two kinds: integers, which are exact, and doubles. The members of an object stand in the order in
which they are written.
-/

namespace RouterTrial

/-- A JSON value. -/
inductive Json where
  | null
  | bool (b : Bool)
  | int (n : Int)
  | float (x : Float)
  | string (s : String)
  | array (items : List Json)
  | object (members : List (String × Json))

namespace Json

instance : Inhabited Json := ⟨null⟩

/-- A string, or null for none. -/
def ofOption : Option String → Json
  | none => null
  | some s => string s

/-- The number `n`, which is a natural one. -/
def nat (n : Nat) : Json := int n

/-- The member of an object with this `name`, the last one of several. -/
def member? (name : String) : Json → Option Json
  | object members => (members.reverse.find? fun m => m.1 == name).map (·.2)
  | _ => none

/-- The item of an array at the position `i`. -/
def item? (i : Nat) : Json → Option Json
  | array items => items[i]?
  | _ => none

/-- The string that a value is, if it is a `string`. -/
def string? : Json → Option String
  | string s => some s
  | _ => none

/-- The double that a number is, or the one nearest to it. -/
def float? : Json → Option Float
  | int n => some (Float.ofInt n)
  | float x => some x
  | _ => none

/-- The member of `v` with this `name`, which may be missing or null, as `read` reads it. -/
def optional? {α : Type} (name : String) (read : Json → Option α) (v : Json) :
    Option (Option α) :=
  match v.member? name with
  | none | some null => some none
  | some member => (read member).map some

/-- The members of an object, each read as a number. -/
def numbers? : Json → Option (List (String × Float))
  | object members => members.mapM fun m => m.2.float?.map (m.1, ·)
  | _ => none

end Json

end RouterTrial
