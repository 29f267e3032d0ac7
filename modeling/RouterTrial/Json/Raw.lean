import RouterTrial.Json.Numeral
import RouterTrial.Table

/-!
# JSON texts as written

`Raw` is the tree of a JSON text before any of its leaves is interpreted: numbers are numerals, and
a string is missing where its escapes do not make up characters. Such leaves are harmless in a part
that nobody looks at; `Raw.value?` is the whole tree as a value, which every leaf has to allow.
-/

namespace RouterTrial.Json

/-- The tree of a JSON text. A string is `none` if it has half of a surrogate pair. -/
inductive Raw where
  | null
  | bool (b : Bool)
  | number (n : Numeral)
  | string (s : Option String)
  | array (items : List Raw)
  | object (members : List (Option String × Raw))

namespace Raw

instance : Inhabited Raw := ⟨null⟩

/-! ### Values -/

mutual

/-- How many arrays and objects lie within each other. -/
def depth : Raw → Nat
  | array items => depthItems items + 1
  | object members => depthMembers members + 1
  | _ => 0

/-- The largest depth of the items. -/
def depthItems : List Raw → Nat
  | [] => 0
  | v :: vs => max (depth v) (depthItems vs)

/-- The largest depth of the members. -/
def depthMembers : List (Option String × Raw) → Nat
  | [] => 0
  | (_, v) :: ms => max (depth v) (depthMembers ms)

end

/-- The members `rest` with one more in front, unless a later one has its `name`. -/
def consMember (name : String) (value : Json) (rest : Table String Json) : Table String Json :=
  rest.alter name fun later => later.getD value

mutual

/-- The value of a tree of any depth. -/
def interpret : Raw → Option Json
  | null => some .null
  | bool b => some (.bool b)
  | number n => n.value?
  | string s => s.map .string
  | array items => (interpretItems items).map .array
  | object members => (interpretMembers members).map fun t => .object t.entries

/-- The values of the items. -/
def interpretItems : List Raw → Option (List Json)
  | [] => some []
  | v :: vs => (interpret v).bind fun x => (interpretItems vs).map (x :: ·)

/-- The members in order of their names, the last one of a name. -/
def interpretMembers : List (Option String × Raw) → Option (Table String Json)
  | [] => some .empty
  | (name, v) :: ms =>
    name.bind fun k => (interpret v).bind fun x => (interpretMembers ms).map (consMember k x)

end

/-- The depth of the deepest trees that have a `value?`. -/
def maxDepth : Nat := 127

/-- The value of the tree `v`, if it is not too deep. -/
def value? (v : Raw) : Option Json := if v.depth ≤ maxDepth then v.interpret else none

end Raw

end RouterTrial.Json
