import RouterTrial.Proofs.Json.Object

/-!
# Places in JSON

A place is a list of names, one below the other (`Json.at?`, `Raw.at?`). What is read at a place of
a text is what was written there (`at?_raw`), and the value of a text holds at each place the value
of what its tree holds there (`at?_interpret`).

`Json.Carries` says where a text holds what. `Json.SameBut` says of two texts that they differ at
some places at most, which leaves every other member as it is and adds none.
-/

namespace RouterTrial.Json

/-! ### What stands at a place -/

/-- What stands at a place of a value. -/
def at? : List String → Json → Option Json
  | [], v => some v
  | name :: place, v => (v.member? name).bind (at? place)

namespace Raw

/-- The tree under `name` in an object, the last one of several. -/
def member? (name : String) : Raw → Option Raw
  | object members => last? name members
  | _ => none

/-- What stands at a place of a tree. -/
def at? : List String → Raw → Option Raw
  | [], v => some v
  | name :: place, v => (v.member? name).bind (at? place)

/-- A part of a tree that has a value `v` has one as well, and it is what `v` has under the name. -/
theorem member?_interpret {tree : Raw} {v : Json} (h : tree.interpret = some v) (name : String) :
    v.member? name = (tree.member? name).bind interpret ∧
      ∀ part, tree.member? name = some part → ∃ w, part.interpret = some w := by
  have hleaf : (∀ ms, tree ≠ object ms) → (∀ ms, v ≠ .object ms) →
      v.member? name = (tree.member? name).bind interpret ∧
        ∀ part, tree.member? name = some part → ∃ w, part.interpret = some w := by
    intro htree hv
    have hnone : tree.member? name = none := by
      cases tree with
      | object ms => exact absurd rfl (htree ms)
      | null | bool _ | number _ | string _ | array _ => rfl
    have hnone' : v.member? name = none := by
      cases v with
      | object ms => exact absurd rfl (hv ms)
      | null | bool _ | int _ | float _ | string _ | array _ => rfl
    rw [hnone, hnone']
    exact ⟨rfl, nofun⟩
  cases tree with
  | object ms =>
    rw [interpret] at h
    obtain ⟨t, ht, rfl⟩ := Option.map_eq_some_iff.mp h
    have hvalues := values_of_interpretMembers ht
    refine ⟨?_, fun part hpart => hvalues.interprets _ (mem_of_last? hpart)⟩
    rw [member?_object hvalues.sorted, hvalues.find?]
    rfl
  | null | bool _ | number _ | string _ | array _ =>
    refine hleaf (fun ms htree => by cases htree) ?_
    rintro ms rfl
    obtain ⟨ms', -, htree, -⟩ := interpret_eq_object h
    cases htree

/-- The value `v` of a tree holds at each `place` the value of what the tree holds there. -/
theorem at?_interpret {tree : Raw} {v : Json} (h : tree.interpret = some v)
    (place : List String) :
    v.at? place = (tree.at? place).bind interpret ∧
      ∀ part, tree.at? place = some part → ∃ w, part.interpret = some w := by
  induction place generalizing tree v with
  | nil =>
    refine ⟨h.symm, fun part hpart => ?_⟩
    obtain rfl := Option.some.inj hpart
    exact ⟨v, h⟩
  | cons name place ih =>
    obtain ⟨hmember, hpart⟩ := member?_interpret h name
    rw [Json.at?, at?, hmember]
    cases hname : tree.member? name with
    | none => exact ⟨rfl, nofun⟩
    | some part =>
      obtain ⟨w, hw⟩ := hpart part hname
      rw [Option.bind_some, Option.bind_some, hw, Option.bind_some]
      exact ih hw

end Raw

private theorem last?_rawMembers (name : String) (members : List (String × Json)) :
    Raw.last? name (rawMembers members) = ((object members).member? name).map raw := by
  have hname : ((fun m : Option String × Raw => decide (m.1 = some name)) ∘
      fun m : String × Json => (some m.1, m.2.raw)) = fun m => m.1 == name := by
    funext m
    rw [Function.comp_apply, Bool.eq_iff_iff, decide_eq_true_iff, beq_iff_eq, Option.some_inj]
  rw [member?, rawMembers_eq_map, Raw.last?, List.filter_map, List.getLast?_map, Option.map_map,
    Option.map_map, ← List.head?_filter, List.filter_reverse, List.head?_reverse, hname]
  rfl

theorem member?_raw (v : Json) (name : String) : v.raw.member? name = (v.member? name).map raw := by
  cases v with
  | object members => exact last?_rawMembers name members
  | float x =>
    rw [raw]
    split <;> rfl
  | null | bool _ | int _ | string _ | array _ => rfl

/-- What is read at a `place` is what was written there. -/
theorem at?_raw (v : Json) (place : List String) : v.raw.at? place = (v.at? place).map raw := by
  induction place generalizing v with
  | nil => rfl
  | cons name place ih =>
    rw [at?, Raw.at?, member?_raw]
    cases v.member? name with
    | none => rfl
    | some w => exact ih w

/-! ### Texts that hold something -/

/-- The text that is written for the value `v` is that of an object and holds these values at these
places, those of `held`, and so does the value of the text if it has one. -/
structure Carries (v : Json) (held : List (List String × Json)) : Prop where
  tree : ∃ members, Raw.ofText? v.compact = some (.object members) ∧
    ∀ entry ∈ held, (Raw.object members).at? entry.1 = some entry.2.raw
  value : ∀ w, ofText? v.compact = some w → ∀ entry ∈ held, w.at? entry.1 = some entry.2

/-- The value `v` is read as itself. -/
def Plain (v : Json) : Prop := v.raw.interpret = some v

theorem plain_null : Plain null := rfl

theorem plain_bool (b : Bool) : Plain (bool b) := rfl

theorem plain_string (s : String) : Plain (string s) := rfl

theorem plain_strings (ss : List String) : Plain (array (ss.map string)) := by
  have hitems : Raw.interpretItems (rawItems (ss.map string)) = some (ss.map string) := by
    induction ss with
    | nil => rfl
    | cons s ss ih =>
      rw [List.map_cons, rawItems, Raw.interpretItems, ih]
      rfl
  rw [Plain, raw, Raw.interpret, hitems, Option.map_some]

theorem carries_of_at? {members : List (String × Json)} {held : List (List String × Json)}
    (h : ∀ entry ∈ held, (object members).at? entry.1 = some entry.2 ∧ entry.2.Plain) :
    (object members).Carries held := by
  refine ⟨⟨rawMembers members, ofText?_compact _, fun entry hentry => ?_⟩,
    fun w hw entry hentry => ?_⟩
  · have hplace := at?_raw (object members) entry.1
    rw [(h entry hentry).1] at hplace
    exact hplace
  · -- the value of the text is the value of its tree, and what is plain keeps its form in it
    obtain ⟨tree, htree, hvalue⟩ := exists_raw_of_ofText? hw
    obtain rfl := Option.some.inj ((ofText?_compact _).symm.trans htree)
    rw [(Raw.at?_interpret hvalue entry.1).1, at?_raw, (h entry hentry).1]
    exact (h entry hentry).2

/-- What two texts hold at the same places is the same if the texts are. The values `v` and `v'`
carry it. -/
theorem Carries.raws_eq {v v' : Json} {held held' : List (List String × Json)} (h : v.Carries held)
    (h' : v'.Carries held') (htext : v.compact = v'.compact)
    (hplaces : held.map (·.1) = held'.map (·.1)) :
    held.map (·.2.raw) = held'.map (·.2.raw) := by
  obtain ⟨members, htree, hheld⟩ := h.tree
  obtain ⟨members', htree', hheld'⟩ := h'.tree
  rw [htext, htree'] at htree
  obtain rfl := Raw.object.inj (Option.some.inj htree)
  have hread : ∀ held : List (List String × Json),
      (∀ entry ∈ held, (Raw.object members').at? entry.1 = some entry.2.raw) →
        (held.map (·.1)).map (Raw.at? · (.object members')) = (held.map (·.2.raw)).map some := by
    intro held hheld
    rw [List.map_map, List.map_map]
    exact List.map_congr_left hheld
  have heq := hread held hheld
  rw [hplaces, hread held' hheld'] at heq
  exact (List.map_injective_iff.mpr (Option.some_injective _) heq).symm

/-! ### Texts that differ at some places -/

/-- A tree without what it has under its names. -/
def Raw.shape : Raw → Raw
  | object members => object (members.map fun m => (m.1, null))
  | v => v

/-- The trees `v` and `w` are the same everywhere but at or below the `places`. -/
def Raw.SameBut (places : List (List String)) (v w : Raw) : Prop :=
  ∀ place, (∀ p ∈ places, ¬ p <+: place) → (v.at? place).map shape = (w.at? place).map shape

/-- The texts that are written for the values `v` and `w` are the same everywhere but at or below
the `places`. -/
def SameBut (places : List (List String)) (v w : Json) : Prop :=
  ∀ tree tree', Raw.ofText? v.compact = some tree → Raw.ofText? w.compact = some tree' →
    tree.SameBut places tree'

theorem sameBut_iff {places : List (List String)} {v w : Json} :
    v.SameBut places w ↔ v.raw.SameBut places w.raw := by
  constructor
  · exact fun h => h _ _ (ofText?_compact v) (ofText?_compact w)
  · intro h tree tree' htree htree'
    obtain rfl := Option.some.inj ((ofText?_compact v).symm.trans htree)
    obtain rfl := Option.some.inj ((ofText?_compact w).symm.trans htree')
    exact h

theorem SameBut.refl (places : List (List String)) (v : Json) : v.SameBut places v :=
  sameBut_iff.mpr fun _ _ => rfl

/-- Nothing lies outside the place of a whole value. -/
theorem sameBut_of_nil_mem {places : List (List String)} (h : [] ∈ places) (v w : Json) :
    v.SameBut places w :=
  sameBut_iff.mpr fun _ hplace => absurd List.nil_prefix (hplace [] h)

/-- Those of the `places` below `name`, seen from there. -/
def under (name : String) (places : List (List String)) : List (List String) :=
  places.filterMap fun
    | [] => none
    | first :: place => if first = name then some place else none

theorem mem_under_iff {name : String} {places : List (List String)} {place : List String} :
    place ∈ under name places ↔ name :: place ∈ places := by
  rw [under, List.mem_filterMap]
  constructor
  · rintro ⟨_ | ⟨first, rest⟩, hmem, heq⟩
    · cases heq
    · change (if first = name then some rest else none) = some place at heq
      split at heq
      · rename_i hfirst
        obtain rfl := Option.some.inj heq
        exact hfirst ▸ hmem
      · cases heq
  · exact fun hmem => ⟨_, hmem, if_pos rfl⟩

/-- Objects with the same names in the same order have nothing under `name`, or what stands there is
related by `R`. -/
private theorem last?_of_forall₂ {R : String × Json → String × Json → Prop}
    {members members' : List (String × Json)} (hR : ∀ m m', R m m' → m.1 = m'.1)
    (h : List.Forall₂ R members members') (name : String) :
    (Raw.last? name (rawMembers members) = none ∧ Raw.last? name (rawMembers members') = none) ∨
      ∃ m m', R m m' ∧ m.1 = name ∧ Raw.last? name (rawMembers members) = some m.2.raw ∧
        Raw.last? name (rawMembers members') = some m'.2.raw := by
  induction h with
  | nil => exact .inl ⟨rfl, rfl⟩
  | @cons m m' ms ms' hm _ ih =>
    rw [rawMembers, rawMembers, Raw.last?_cons, Raw.last?_cons, ← hR m m' hm]
    by_cases hname : m.1 = name
    · -- this member is passed over if a later one has the name as well, in both objects
      rw [if_pos (congrArg some hname), if_pos (congrArg some hname)]
      rcases ih with ⟨hnone, hnone'⟩ | ⟨k, k', hk, hkname, hlast, hlast'⟩
      · exact .inr ⟨m, m', hm, hname, by rw [hnone]; rfl, by rw [hnone']; rfl⟩
      · exact .inr ⟨k, k', hk, hkname, by rw [hlast]; rfl, by rw [hlast']; rfl⟩
    · have hne : some m.1 ≠ some name := fun heq => hname (Option.some.inj heq)
      rw [if_neg hne, if_neg hne]
      exact ih

/-- Objects with the same names in the same order are `SameBut` at those places where what stands
under the names differs. -/
theorem sameBut_object {places : List (List String)} {members members' : List (String × Json)}
    (h : List.Forall₂ (fun m m' => m.1 = m'.1 ∧ m.2.SameBut (under m.1 places) m'.2) members
      members') :
    (object members).SameBut places (object members') := by
  rw [sameBut_iff]
  intro place hplace
  cases place with
  | nil =>
    have hnames : (rawMembers members).map (fun m => (m.1, Raw.null))
        = (rawMembers members').map fun m => (m.1, Raw.null) := by
      induction h with
      | nil => rfl
      | cons hm _ ih => rw [rawMembers, rawMembers, List.map_cons, List.map_cons, ih, hm.1]
    exact congrArg (fun ms => some (Raw.object ms)) hnames
  | cons name place =>
    have hunder : ∀ p ∈ under name places, ¬ p <+: place := fun p hp hpre =>
      hplace _ (mem_under_iff.mp hp) ((List.cons_prefix_cons).mpr ⟨rfl, hpre⟩)
    have hlast := last?_of_forall₂ (fun _ _ hm => hm.1) h name
    rw [Raw.at?, Raw.at?]
    rcases hlast with ⟨hnone, hnone'⟩ | ⟨m, m', ⟨-, hm⟩, rfl, hlast, hlast'⟩
    · rw [show (object members).raw.member? name = none from hnone,
        show (object members').raw.member? name = none from hnone']
    · rw [show (object members).raw.member? m.1 = some m.2.raw from hlast,
        show (object members').raw.member? m.1 = some m'.2.raw from hlast']
      exact sameBut_iff.mp hm place hunder

end RouterTrial.Json
