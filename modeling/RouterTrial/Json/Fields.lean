import RouterTrial.Json.Raw

/-!
# Reading records

How a record with named fields is read from the tree of a JSON text. An object gives the fields by
name: a field must not stand there twice, and members with other names are passed over whatever
they hold. An array gives the fields by position, in the order of the names; it may be shorter than
the list of names, never longer.
-/

namespace RouterTrial.Json

/-- The fields of a record that are there, each with its tree. -/
abbrev Fields := List (String × Raw)

/-- The members of an object that are among the fields `names`, unless one stands there twice or has
no readable name. -/
def namedFields? (names : List String) : List (Option String × Raw) → Option Fields
  | [] => some []
  | (none, _) :: _ => none
  | (some name, v) :: ms =>
    (namedFields? names ms).bind fun fields =>
      if names.contains name then
        if (fields.lookup name).isSome then none else some ((name, v) :: fields)
      else some fields

/-- The fields of a record with these `names`: members of an object, or the items of an array in
their order. -/
def Raw.fields? (names : List String) : Raw → Option Fields
  | .object members => namedFields? names members
  | .array items => if items.length ≤ names.length then some (names.zip items) else none
  | _ => none

/-! ### One field -/

/-- What `read` reads in the field with this `name`, which has to be there. -/
def Fields.required {α : Type} (fields : Fields) (name : String) (read : Raw → Option α) :
    Option α :=
  (fields.lookup name).bind read

/-- What `read` reads in the field with this `name`, which may be missing or null. -/
def Fields.optional {α : Type} (fields : Fields) (name : String) (read : Raw → Option α) :
    Option (Option α) :=
  match fields.lookup name with
  | none | some .null => some none
  | some v => (read v).map some

/-- What `read` reads in the field with this `name`; the `default` if it is missing. -/
def Fields.defaulted {α : Type} (fields : Fields) (name : String) (default : α)
    (read : Raw → Option α) : Option α :=
  match fields.lookup name with
  | none => some default
  | some v => read v

/-! ### Leaves -/

/-- A string whose characters are known. -/
def Raw.string? : Raw → Option String
  | .string s => s
  | _ => none

/-- A truth value. -/
def Raw.bool? : Raw → Option Bool
  | .bool b => some b
  | _ => none

/-- A number, as a double. -/
def Raw.float? : Raw → Option Float
  | .number n => n.value?.bind Json.float?
  | _ => none

/-- The items of an array, each as `read` reads it. -/
def Raw.list? {α : Type} (read : Raw → Option α) : Raw → Option (List α)
  | .array items => items.mapM read
  | _ => none

/-- The name of a choice without data: a string, or an object with a null under the name. -/
def Raw.choice? : Raw → Option String
  | .string s => s
  | .object [(some name, .null)] => some name
  | _ => none

/-- A choice without data, by its name, as `ofName?` reads it. -/
def Raw.named? {α : Type} (ofName? : String → Option α) (v : Raw) : Option α :=
  v.choice?.bind ofName?

end RouterTrial.Json
