import RouterTrial.Json.Reader
import RouterTrial.Proofs.Elementwise
import RouterTrial.Proofs.Number.Finite
import RouterTrial.Proofs.Table.Groups

/-!
# Values of JSON texts

What the value of a text holds, as far as those who read answers rely on it.

A text has a value if its tree is not nested too deep and can be interpreted. All trees under one
name of an object are interpreted, and the object has the value of the last of them (`LastWins`);
its names stand in ascending order, each of them once. A numeral becomes an integer of 64 bits or a
finite double, or it has no value at all. So every number that a text writes is finite
(`exists_trees_of_interpret`).

A member that is null is read like a missing one, where members may be missing
(`optional?_eq_some_iff`). `OptionalString` and `OptionalNumbers` say of a value alone when such a
member is read.
-/

namespace RouterTrial.Json

/-! ### Numbers -/

namespace Numeral

open Number (Normal isFinite_div isFinite_neg isFinite_ofInt isFinite_toFloat normal_power)

private theorem isFinite_div_power {x : Float} {k : Nat} (hx : x.isFinite = true) (h1 : 1 ≤ k)
    (h : k ≤ maxPower) : (x / power k).isFinite = true := by
  have hpower : Normal (-49) (power k).toModel.unpack := normal_power h1 h
  exact isFinite_div hx (Normal.mono (by decide) hpower)

private theorem isFinite_scale? {x y : Float} {e : Int} (hx : x.isFinite = true)
    (h : scale? x e = some y) : y.isFinite = true := by
  simp only [scale?] at h
  by_cases he : 0 ≤ e
  · rw [if_pos he] at h
    by_cases hpower : e.natAbs ≤ maxPower
    · rw [if_pos hpower] at h
      exact (Option.filter_eq_some_iff.mp h).2
    · rw [if_neg hpower] at h
      split at h
      · obtain rfl := Option.some.inj h
        exact hx
      · cases h
  · rw [if_neg he] at h
    by_cases hpower : e.natAbs ≤ maxPower
    · rw [if_pos hpower] at h
      obtain rfl := Option.some.inj h
      exact isFinite_div_power hx (by omega) hpower
    · rw [if_neg hpower] at h
      split at h
      · rename_i htwice
        obtain rfl := Option.some.inj h
        have hfirst := isFinite_div_power hx (by decide) (Nat.le_refl maxPower)
        exact isFinite_div_power hfirst (by omega) (by omega)
      · obtain rfl := Option.some.inj h
        decide

private theorem isFinite_float? {n : Numeral} {y : Float} (h : n.float? = some y) :
    y.isFinite = true := by
  simp only [float?] at h
  obtain ⟨x, hx, rfl⟩ := Option.map_eq_some_iff.mp h
  have hfinite := isFinite_scale? (isFinite_toFloat _) hx
  split
  · exact isFinite_neg hfinite
  · exact hfinite

/-- The value of the numeral `n` is an integer of 64 bits or its double. -/
private theorem value?_cases {n : Numeral} {v : Json} (h : n.value? = some v) :
    (∃ k : Int, (-2 ^ 64 < k ∧ k < 2 ^ 64) ∧ v = .int k) ∨
      ∃ y, n.float? = some y ∧ v = .float y := by
  have hfloat : n.float?.map .float = some v → ∃ y, n.float? = some y ∧ v = .float y := by
    intro h
    obtain ⟨y, hy, rfl⟩ := Option.map_eq_some_iff.mp h
    exact ⟨y, hy, rfl⟩
  simp only [value?] at h
  by_cases hinteger : n.isInteger = true
  · rw [if_pos hinteger] at h
    generalize Number.ofDigits n.whole = whole at h
    by_cases hnegative : n.negative = true
    · rw [if_pos hnegative] at h
      by_cases hrange : 0 < whole ∧ Number.minSigned ≤ -(whole : Int)
      · rw [if_pos hrange] at h
        obtain rfl := Option.some.inj h
        refine .inl ⟨_, ?_, rfl⟩
        unfold Number.minSigned at hrange
        omega
      · rw [if_neg hrange] at h
        exact .inr (hfloat h)
    · rw [if_neg hnegative] at h
      by_cases hrange : whole ≤ Number.maxUnsigned
      · rw [if_pos hrange] at h
        obtain rfl := Option.some.inj h
        refine .inl ⟨_, ?_, rfl⟩
        unfold Number.maxUnsigned at hrange
        omega
      · rw [if_neg hrange] at h
        exact .inr (hfloat h)
  · rw [if_neg hinteger] at h
    exact .inr (hfloat h)

/-- Read as a double, the value `v` of a numeral is finite. -/
theorem isFinite_value? {n : Numeral} {v : Json} {x : Float} (h : n.value? = some v)
    (hx : v.float? = some x) : x.isFinite = true := by
  rcases value?_cases h with ⟨k, hk, rfl⟩ | ⟨y, hy, rfl⟩
  · obtain rfl := Option.some.inj hx
    exact Number.isFinite_ofInt hk
  · obtain rfl := Option.some.inj hx
    exact isFinite_float? hy

end Numeral

/-! ### Objects -/

/-- The last of the trees that stand under `name`. -/
def Raw.last? (name : String) (members : List (Option String × Raw)) : Option Raw :=
  ((members.filter fun m => m.1 = some name).getLast?).map (·.2)

namespace Raw

theorem last?_cons (name : String) (m : Option String × Raw) (ms : List (Option String × Raw)) :
    last? name (m :: ms)
      = if m.1 = some name then some ((last? name ms).getD m.2) else last? name ms := by
  unfold last?
  rw [List.filter_cons]
  by_cases hname : m.1 = some name
  · rw [if_pos (decide_eq_true hname), if_pos hname, List.getLast?_cons]
    cases (ms.filter fun m => m.1 = some name).getLast? <;> rfl
  · rw [if_neg (by simpa using hname), if_neg hname]

theorem mem_of_last? {name : String} {tree : Raw} {members : List (Option String × Raw)}
    (h : last? name members = some tree) : (some name, tree) ∈ members := by
  obtain ⟨m, hm, rfl⟩ := Option.map_eq_some_iff.mp h
  obtain ⟨hmem, hname⟩ := List.mem_filter.mp (List.mem_of_getLast? hm)
  rwa [← of_decide_eq_true hname]

/-- The table `t` of the values of `members` has under each name the value of the last tree. -/
structure Values (members : List (Option String × Raw)) (t : Table String Json) : Prop where
  sorted : t.Sorted
  find? : ∀ name, t.find? name = (last? name members).bind interpret
  interprets : ∀ m ∈ members, ∃ v, m.2.interpret = some v

theorem values_of_interpretMembers {members : List (Option String × Raw)} {t : Table String Json}
    (h : interpretMembers members = some t) : Values members t := by
  induction members generalizing t with
  | nil =>
    obtain rfl := Option.some.inj h
    exact ⟨Table.sorted_empty, fun _ => rfl, nofun⟩
  | cons m ms ih =>
    obtain ⟨name?, tree⟩ := m
    rw [interpretMembers] at h
    obtain ⟨k, hk, hmembers⟩ := Option.bind_eq_some_iff.mp h
    obtain ⟨v, hv, hmembers⟩ := Option.bind_eq_some_iff.mp hmembers
    obtain ⟨rest, hrest, rfl⟩ := Option.map_eq_some_iff.mp hmembers
    subst hk
    have hvalues := ih hrest
    refine ⟨hvalues.sorted.alter k _, fun name => ?_, ?_⟩
    · rw [consMember, hvalues.sorted.find?_alter, last?_cons]
      by_cases hname : name = k
      · subst hname
        rw [if_pos rfl, if_pos rfl, Option.bind_some, hvalues.find?]
        cases hlast : last? name ms with
        | none => exact hv.symm
        | some later =>
          obtain ⟨w, hw⟩ := hvalues.interprets _ (mem_of_last? hlast)
          rw [Option.bind_some, Option.getD_some, hw, Option.getD_some]
      · rw [if_neg hname, if_neg fun h => hname (Option.some.inj h).symm, hvalues.find?]
    · rintro m (_ | ⟨_, hm⟩)
      · exact ⟨v, hv⟩
      · exact hvalues.interprets m hm

/-- An `object` is the value of an object. -/
theorem interpret_eq_object {tree : Raw} {members : List (String × Json)}
    (h : tree.interpret = some (.object members)) :
    ∃ ms t, tree = .object ms ∧ Values ms t ∧ t.entries = members := by
  cases tree with
  | object ms =>
    rw [interpret] at h
    obtain ⟨t, ht, hobject⟩ := Option.map_eq_some_iff.mp h
    exact ⟨ms, t, rfl, values_of_interpretMembers ht, Json.object.inj hobject⟩
  | null => cases h
  | bool b => cases h
  | number n =>
    rcases Numeral.value?_cases h with ⟨k, -, hv⟩ | ⟨y, -, hv⟩ <;> cases hv
  | string s =>
    obtain ⟨_, -, hv⟩ := Option.map_eq_some_iff.mp h
    cases hv
  | array items =>
    rw [interpret] at h
    obtain ⟨_, -, hv⟩ := Option.map_eq_some_iff.mp h
    cases hv

/-- Read as a double, the value `v` of a tree is finite. -/
theorem isFinite_interpret {tree : Raw} {v : Json} {x : Float} (h : tree.interpret = some v)
    (hx : v.float? = some x) : x.isFinite = true := by
  cases tree with
  | number n => exact Numeral.isFinite_value? h hx
  | object ms =>
    rw [interpret] at h
    obtain ⟨_, -, rfl⟩ := Option.map_eq_some_iff.mp h
    cases hx
  | null =>
    obtain rfl := Option.some.inj h
    cases hx
  | bool b =>
    obtain rfl := Option.some.inj h
    cases hx
  | string s =>
    obtain ⟨_, -, rfl⟩ := Option.map_eq_some_iff.mp h
    cases hx
  | array items =>
    rw [interpret] at h
    obtain ⟨_, -, rfl⟩ := Option.map_eq_some_iff.mp h
    cases hx

end Raw

/-! ### Members -/

/-- A member of an object whose names are in order is what stands under its `name`. -/
theorem member?_object {t : Table String Json} (h : t.Sorted) (name : String) :
    (object t.entries).member? name = t.find? name := by
  rw [member?]
  cases hfind : t.entries.reverse.find? fun m => m.1 == name with
  | none =>
    rw [List.find?_eq_none] at hfind
    refine (Option.eq_none_iff_forall_not_mem.mpr fun v hv => ?_).symm
    have hmem := h.mem_entries_iff.mpr hv
    exact hfind _ (List.mem_reverse.mpr hmem) (beq_self_eq_true name)
  | some m =>
    have hname := List.find?_some hfind
    obtain rfl := eq_of_beq hname
    have hmem := List.mem_reverse.mp (List.mem_of_find?_eq_some hfind)
    exact (h.mem_entries_iff.mp hmem).symm

/-- Of the `trees` under one name an object has the value of the last. -/
def LastWins (trees : List (Option String × Raw)) (members : List (String × Json)) : Prop :=
  ∀ name, (object members).member? name = (Raw.last? name trees).bind Raw.interpret

/-- The `members` of the value stand in ascending order of their names, the last one of each name,
and those that are numbers are finite. -/
theorem exists_trees_of_interpret {tree : Raw} {members : List (String × Json)}
    (h : tree.interpret = some (.object members)) :
    ∃ trees, tree = .object trees ∧ LastWins trees members ∧
      (members.Pairwise fun m m' => compare m.1 m'.1 = .lt) ∧
      ∀ m ∈ members, ∀ x, m.2.float? = some x → x.isFinite = true := by
  obtain ⟨trees, t, rfl, hvalues, rfl⟩ := Raw.interpret_eq_object h
  refine ⟨trees, rfl, fun name => ?_, List.pairwise_map.mp hvalues.sorted, fun m hm x hx => ?_⟩
  · rw [member?_object hvalues.sorted, hvalues.find?]
  · have hfind := hvalues.sorted.mem_entries_iff.mp hm
    rw [hvalues.find?] at hfind
    obtain ⟨tree, -, hvalue⟩ := Option.bind_eq_some_iff.mp hfind
    exact Raw.isFinite_interpret hvalue hx

/-- A text with the value `v` has a tree with that value. -/
theorem exists_raw_of_ofText? {text : String} {v : Json} (h : ofText? text = some v) :
    ∃ tree, Raw.ofText? text = some tree ∧ tree.interpret = some v := by
  obtain ⟨tree, htree, hvalue⟩ := Option.bind_eq_some_iff.mp h
  refine ⟨tree, htree, ?_⟩
  rw [Raw.value?] at hvalue
  split at hvalue
  · exact hvalue
  · cases hvalue

/-! ### Members that may be missing -/

/-- A value that is an `int` or a `float`. -/
def IsNumber : Json → Prop
  | int _ | float _ => True
  | _ => False

/-- The member `name` of `v` is missing, null, or a string. -/
def OptionalString (v : Json) (name : String) : Prop :=
  v.member? name = none ∨ v.member? name = some null ∨ ∃ s, v.member? name = some (string s)

/-- The member `name` of `v` is missing, null, or an object of numbers. -/
def OptionalNumbers (v : Json) (name : String) : Prop :=
  v.member? name = none ∨ v.member? name = some null ∨
    ∃ ms, v.member? name = some (object ms) ∧ ∀ m ∈ ms, m.2.IsNumber

theorem isNumber_iff {v : Json} : v.IsNumber ↔ ∃ x, v.float? = some x := by
  cases v with
  | int n => exact ⟨fun _ => ⟨_, rfl⟩, fun _ => trivial⟩
  | float x => exact ⟨fun _ => ⟨_, rfl⟩, fun _ => trivial⟩
  | null | bool _ | string _ | array _ | object _ => exact ⟨False.elim, nofun⟩

/-- A member that may be missing is read as nothing if it is missing or null, and otherwise by
`read` like a member that has to be there. -/
theorem optional?_eq_some_iff {α : Type} {name : String} {read : Json → Option α} {v : Json}
    {r : Option α} (hnull : read null = none) :
    v.optional? name read = some r ↔
      (v.member? name = none ∨ v.member? name = some null) ∧ r = none ∨
        ∃ member a, v.member? name = some member ∧ read member = some a ∧ r = some a := by
  have hmissing : v.member? name = none ∨ v.member? name = some null →
      v.optional? name read = some none := by
    rw [optional?]
    rintro (h | h) <;> rw [h]
  have hmember : ∀ member, v.member? name = some member → member ≠ null →
      v.optional? name read = (read member).map some := by
    intro member h hne
    rw [optional?, h]
    cases member with
    | null => exact absurd rfl hne
    | bool _ | int _ | float _ | string _ | array _ | object _ => rfl
  constructor
  · intro h
    by_cases hnone : v.member? name = none ∨ v.member? name = some null
    · rw [hmissing hnone] at h
      exact .inl ⟨hnone, (Option.some.inj h).symm⟩
    · obtain ⟨hne, hne'⟩ := not_or.mp hnone
      obtain ⟨member, hm⟩ := Option.ne_none_iff_exists'.mp hne
      rw [hmember member hm fun h => hne' (h ▸ hm)] at h
      obtain ⟨a, ha, rfl⟩ := Option.map_eq_some_iff.mp h
      exact .inr ⟨member, a, hm, ha, rfl⟩
  · rintro (⟨hnone, rfl⟩ | ⟨member, a, hm, ha, rfl⟩)
    · exact hmissing hnone
    · have hne : member ≠ null := by
        rintro rfl
        cases hnull.symm.trans ha
      rw [hmember member hm hne, ha]
      rfl

theorem string?_eq_some_iff {v : Json} {s : String} : v.string? = some s ↔ v = string s := by
  cases v with
  | string s' => exact Option.some_inj.trans ⟨congrArg string, string.inj⟩
  | null | bool _ | int _ | float _ | array _ | object _ => exact ⟨nofun, nofun⟩

/-- The members `ms` of an object are read as numbers one by one. -/
theorem numbers?_eq_some_iff {ms : List (String × Json)} {scores : List (String × Float)} :
    (object ms).numbers? = some scores ↔
      List.Forall₂ (fun m s => m.1 = s.1 ∧ m.2.float? = some s.2) ms scores := by
  rw [numbers?, mapM_eq_some_iff]
  have hmember : ∀ (m : String × Json) (s : String × Float),
      m.2.float?.map (m.1, ·) = some s ↔ m.1 = s.1 ∧ m.2.float? = some s.2 := by
    rintro ⟨name, v⟩ ⟨name', x⟩
    rw [Option.map_eq_some_iff]
    simp only [Prod.mk.injEq]
    constructor
    · rintro ⟨y, hy, rfl, rfl⟩
      exact ⟨rfl, hy⟩
    · rintro ⟨rfl, hx⟩
      exact ⟨x, hx, rfl, rfl⟩
  simp only [hmember]

theorem numbers?_isSome_iff {ms : List (String × Json)} :
    (∃ scores, (object ms).numbers? = some scores) ↔ ∀ m ∈ ms, m.2.IsNumber := by
  simp only [numbers?_eq_some_iff, exists_forall₂_iff, isNumber_iff]
  refine forall₂_congr fun m _ => ?_
  constructor
  · rintro ⟨s, -, hs⟩
    exact ⟨s.2, hs⟩
  · rintro ⟨x, hx⟩
    exact ⟨(m.1, x), rfl, hx⟩

theorem optionalString_iff {v : Json} {name : String} :
    v.OptionalString name ↔ ∃ r, v.optional? name string? = some r := by
  have hnull : string? null = none := rfl
  simp only [optional?_eq_some_iff hnull, string?_eq_some_iff]
  constructor
  · rintro (h | h | ⟨s, h⟩)
    · exact ⟨none, .inl ⟨.inl h, rfl⟩⟩
    · exact ⟨none, .inl ⟨.inr h, rfl⟩⟩
    · exact ⟨some s, .inr ⟨_, s, h, rfl, rfl⟩⟩
  · rintro ⟨r, ⟨h | h, -⟩ | ⟨_, s, h, rfl, -⟩⟩
    · exact .inl h
    · exact .inr (.inl h)
    · exact .inr (.inr ⟨s, h⟩)

theorem optionalNumbers_iff {v : Json} {name : String} :
    v.OptionalNumbers name ↔ ∃ r, v.optional? name numbers? = some r := by
  have hnull : numbers? null = none := rfl
  simp only [optional?_eq_some_iff hnull]
  constructor
  · rintro (h | h | ⟨ms, h, hnumbers⟩)
    · exact ⟨none, .inl ⟨.inl h, rfl⟩⟩
    · exact ⟨none, .inl ⟨.inr h, rfl⟩⟩
    · obtain ⟨scores, hscores⟩ := numbers?_isSome_iff.mpr hnumbers
      exact ⟨some scores, .inr ⟨_, scores, h, hscores, rfl⟩⟩
  · rintro ⟨r, ⟨h | h, -⟩ | ⟨member, scores, h, hscores, -⟩⟩
    · exact .inl h
    · exact .inr (.inl h)
    · cases member with
      | object ms => exact .inr (.inr ⟨ms, h, numbers?_isSome_iff.mp ⟨scores, hscores⟩⟩)
      | null | bool _ | int _ | float _ | string _ | array _ => cases hscores

/-- The string that is read from the member `name` is the one that stands there. -/
theorem eq_some_iff_of_optional?_string? {v : Json} {name : String} {r : Option String}
    (h : v.optional? name string? = some r) {s : String} :
    r = some s ↔ v.member? name = some (string s) := by
  rw [optional?_eq_some_iff rfl] at h
  rcases h with ⟨hmissing, rfl⟩ | ⟨member, s', hmember, hs', rfl⟩
  · refine iff_of_false nofun fun hs => ?_
    rw [hs] at hmissing
    rcases hmissing with h | h <;> cases h
  · obtain rfl := string?_eq_some_iff.mp hs'
    rw [hmember]
    exact ⟨fun h => congrArg (some <| string ·) (Option.some.inj h), fun h =>
      congrArg some (string.inj (Option.some.inj h))⟩

end RouterTrial.Json
