import RouterTrial.Json.Fields
import RouterTrial.Proofs.Json.Value

/-!
# Fields of records

Which trees are read as records with named fields, and what each field is read from. A record is an
object that has none of the fields twice and whose names can all be read, or an array that is not
longer than the list of names (`Raw.IsRecord`); a field is read from the member with its name or
from the item at its place (`Raw.field?`). Members with other names are passed over whatever they
hold (`Raw.isRecord_insert`, `Raw.field?_insert`).
-/

namespace RouterTrial.Json

variable {names : List String} {name : String} {tree : Raw} {fields : Fields}
  {members before after : List (Option String × Raw)}

/-! ### Members -/

/-- A member gives its field, unless one with its `name` follows; with another name it gives
none. -/
private theorem namedFields?_cons_eq_some_iff :
    namedFields? names ((some name, tree) :: members) = some fields ↔
      ∃ rest, namedFields? names members = some rest ∧
        (name ∈ names ∧ rest.lookup name = none ∧ fields = (name, tree) :: rest ∨
          name ∉ names ∧ fields = rest) := by
  rw [namedFields?, Option.bind_eq_some_iff]
  refine exists_congr fun rest => and_congr_right fun _ => ?_
  by_cases hname : name ∈ names
  · rw [if_pos (List.contains_iff_mem.mpr hname)]
    simp only [hname, true_and, not_true_eq_false, false_and, or_false]
    cases rest.lookup name with
    | none => exact ⟨fun h => ⟨rfl, (Option.some.inj h).symm⟩, fun h => congrArg some h.2.symm⟩
    | some tree' => exact ⟨nofun, nofun⟩
  · rw [if_neg fun h => hname (List.contains_iff_mem.mp h)]
    simp only [hname, false_and, not_false_eq_true, true_and, false_or]
    exact Option.some_inj.trans eq_comm

/-- The field `name` is read from the member with its name. -/
private theorem lookup_of_namedFields? (h : namedFields? names members = some fields)
    (hname : name ∈ names) : fields.lookup name = Raw.last? name members := by
  induction members generalizing fields with
  | nil =>
    obtain rfl := Option.some.inj h
    rfl
  | cons m ms ih =>
    obtain ⟨_ | other, tree⟩ := m
    · cases h
    · obtain ⟨rest, hrest, hfields⟩ := namedFields?_cons_eq_some_iff.mp h
      -- the last member with a name is the first one too, since a field does not stand there twice
      rw [Raw.last?_cons]
      rcases hfields with ⟨-, hnew, rfl⟩ | ⟨hother, rfl⟩
      · by_cases hsame : other = name
        · subst hsame
          rw [List.lookup_cons_self, if_pos rfl, ← ih hrest, hnew, Option.getD_none]
        · rw [List.lookup_cons, beq_false_of_ne (Ne.symm hsame),
            if_neg fun h => hsame (Option.some.inj h)]
          exact ih hrest
      · rw [if_neg]
        · exact ih hrest
        · rintro h
          exact hother (Option.some.inj h ▸ hname)

/-- A name has no field exactly if no member has it. -/
private theorem lookup_eq_none_iff (h : namedFields? names members = some fields)
    (hname : name ∈ names) :
    fields.lookup name = none ↔ members.countP (·.1 = some name) = 0 := by
  rw [lookup_of_namedFields? h hname, Raw.last?, Option.map_eq_none_iff,
    List.getLast?_eq_none_iff, List.filter_eq_nil_iff, List.countP_eq_zero]

/-- Members are the fields of a record if all their `names` can be read and no field stands there
twice. -/
private theorem exists_namedFields?_iff :
    (∃ fields, namedFields? names members = some fields) ↔
      (∀ m ∈ members, m.1 ≠ none) ∧ ∀ name ∈ names, members.countP (·.1 = some name) ≤ 1 := by
  induction members with
  | nil => exact ⟨fun _ => ⟨nofun, fun _ _ => Nat.zero_le _⟩, fun _ => ⟨[], rfl⟩⟩
  | cons m ms ih =>
    obtain ⟨_ | other, tree⟩ := m
    · refine ⟨?_, fun h => absurd rfl (h.1 _ List.mem_cons_self)⟩
      rintro ⟨fields, h⟩
      cases h
    have hcount : ∀ name, ((some other, tree) :: ms).countP (·.1 = some name)
        = ms.countP (·.1 = some name) + if other = name then 1 else 0 := by
      intro name
      rw [List.countP_cons]
      by_cases hname : other = name <;> simp [hname]
    simp only [hcount, namedFields?_cons_eq_some_iff, List.forall_mem_cons]
    constructor
    · rintro ⟨fields, rest, hrest, hfields⟩
      obtain ⟨hreadable, honce⟩ := ih.mp ⟨rest, hrest⟩
      refine ⟨⟨Option.some_ne_none _, hreadable⟩, fun name hname => ?_⟩
      by_cases hsame : other = name
      · subst hsame
        rcases hfields with ⟨-, hnew, -⟩ | ⟨hother, -⟩
        · rw [if_pos rfl, (lookup_eq_none_iff hrest hname).mp hnew]
        · exact absurd hname hother
      · rw [if_neg hsame]
        exact honce name hname
    · rintro ⟨⟨-, hreadable⟩, honce⟩
      have honce' : ∀ name ∈ names, ms.countP (·.1 = some name) ≤ 1 :=
        fun name hname => (Nat.le_add_right _ _).trans (honce name hname)
      obtain ⟨rest, hrest⟩ := ih.mpr ⟨hreadable, honce'⟩
      by_cases hother : other ∈ names
      -- this member is the one with its name, so there is none among the others
      · have hnew : rest.lookup other = none := by
          have honly := honce other hother
          rw [if_pos rfl] at honly
          exact (lookup_eq_none_iff hrest hother).mpr (by omega)
        exact ⟨_, rest, hrest, .inl ⟨hother, hnew, rfl⟩⟩
      · exact ⟨_, rest, hrest, .inr ⟨hother, rfl⟩⟩

/-! ### Items -/

/-- A field is read from the item at its place among `names`. -/
private theorem lookup_zip {items : List Raw} (h : items.length ≤ names.length) :
    (names.zip items).lookup name = items[names.idxOf name]? := by
  induction items generalizing names with
  | nil => rw [List.zip_nil_right, List.lookup_nil, List.getElem?_nil]
  | cons item items ih =>
    cases names with
    | nil => cases h
    | cons other names =>
      rw [List.zip_cons_cons, List.lookup_cons, List.idxOf_cons]
      by_cases hsame : name = other
      · rw [hsame, beq_self_eq_true]
        rfl
      · rw [beq_false_of_ne hsame, beq_false_of_ne (Ne.symm hsame)]
        exact ih (Nat.le_of_succ_le_succ h)

/-! ### Records -/

namespace Raw

/-- The tree has the form of a record with the fields `names`. -/
def IsRecord (names : List String) : Raw → Prop
  | object members =>
    (∀ m ∈ members, m.1 ≠ none) ∧ ∀ name ∈ names, members.countP (·.1 = some name) ≤ 1
  | array items => items.length ≤ names.length
  | _ => False

/-- What the field `name` of a record with the fields `names` is read from. -/
def field? (names : List String) (name : String) : Raw → Option Raw
  | object members => last? name members
  | array items => items[names.idxOf name]?
  | _ => none

variable {v : Raw}

theorem exists_fields?_iff : (∃ fields, v.fields? names = some fields) ↔ v.IsRecord names := by
  cases v with
  | object members => exact exists_namedFields?_iff
  | array items =>
    rw [fields?, IsRecord]
    by_cases h : items.length ≤ names.length
    · simp [h]
    · simp [h]
  | null | bool _ | number _ | string _ => simp [fields?, IsRecord]

theorem lookup_of_fields? (h : v.fields? names = some fields) (hname : name ∈ names) :
    fields.lookup name = v.field? names name := by
  cases v with
  | object members => exact lookup_of_namedFields? h hname
  | array items =>
    rw [fields?] at h
    split at h
    · rename_i hle
      obtain rfl := Option.some.inj h
      exact lookup_zip hle
    · cases h
  | null | bool _ | number _ | string _ => cases h

/-! ### Other members -/

private theorem last?_append :
    last? name (before ++ after) = (last? name after).or (last? name before) := by
  rw [last?, last?, last?, List.filter_append, List.getLast?_append, Option.map_or]

/-- A member with a name that is none of `names` is passed over when a field is looked for. -/
theorem field?_insert {other : String} (hother : other ∉ names) (hname : name ∈ names) :
    (object (before ++ (some other, tree) :: after)).field? names name
      = (object (before ++ after)).field? names name := by
  have hne : ¬some other = some name := fun h => hother (Option.some.inj h ▸ hname)
  rw [field?, field?, last?_append, last?_cons, if_neg hne, last?_append]

/-- A member with a name that is none of `names` is harmless. -/
theorem isRecord_insert {other : String} (hother : other ∉ names) :
    (object (before ++ (some other, tree) :: after)).IsRecord names ↔
      (object (before ++ after)).IsRecord names := by
  have hcount : ∀ name ∈ names, (before ++ (some other, tree) :: after).countP (·.1 = some name)
      = (before ++ after).countP (·.1 = some name) := by
    intro name hname
    have hne : ¬some other = some name := fun h => hother (Option.some.inj h ▸ hname)
    rw [List.countP_append, List.countP_cons_of_neg (by simpa using hne), List.countP_append]
  refine and_congr ?_ (forall₂_congr fun name hname => by rw [hcount name hname])
  simp only [List.forall_mem_append, List.forall_mem_cons, ne_eq, reduceCtorEq, not_false_eq_true,
    true_and]

end Raw

/-! ### Strings -/

/-- What a `field` that may be missing is read from: a string with the text, or, if there is no
text, nothing or a null. -/
def Raw.MayHold (field : Option Raw) : Option String → Prop
  | some text => field = some (.string (some text))
  | none => field = none ∨ field = some .null

theorem required_string_eq_some_iff {text : String} :
    fields.required name Raw.string? = some text ↔
      fields.lookup name = some (.string (some text)) := by
  rw [Fields.required]
  cases fields.lookup name with
  | none => exact ⟨nofun, nofun⟩
  | some v => cases v <;> simp [Raw.string?]

theorem optional_string_eq_some_iff {text : Option String} :
    fields.optional name Raw.string? = some text ↔ Raw.MayHold (fields.lookup name) text := by
  rw [Fields.optional]
  cases fields.lookup name with
  | none => cases text <;> simp [Raw.MayHold]
  | some v => cases v <;> cases text <;> simp [Raw.string?, Raw.MayHold]

end RouterTrial.Json
