import Mathlib.Data.List.Perm.Lattice
import RouterTrial.Proofs.Json.Text
import RouterTrial.Proofs.Json.Value

/-!
# Values of written texts

What the text of a value is read as (`Json.Reads`). Numbers, strings and arrays are read as
themselves, and an object whose names are all different as an object with the same names, under each
of them what was written there (`Json.Consists`); only the order of the names may be another.

Without doubles no two values have the same text. `Json.Tells` says of a way to write things that
they can be told apart by their texts.
-/

namespace RouterTrial.Json

/-! ### Objects by their members -/

/-- The value `v` is an object with the names of `fields` and no others, and what stands under each
name has the property that goes with it. -/
def Consists (v : Json) (fields : List (String × (Json → Prop))) : Prop :=
  ∃ members, v = object members ∧ (members.map (·.1)).Perm (fields.map (·.1)) ∧
    ∀ field ∈ fields, ∃ w, v.member? field.1 = some w ∧ field.2 w

/-- The value `v` is an array whose items have, one by one, the property `p` of the elements of
`as`. -/
def Lists {α : Type} (p : α → Json → Prop) (as : List α) (v : Json) : Prop :=
  ∃ items, v = array items ∧ List.Forall₂ p as items

/-! ### Reading what is written -/

/-- The tree that is written for the value `v` is not deeper than `depth`, and it is read as a value
with the property `p`. -/
structure Reads (depth : Nat) (v : Json) (p : Json → Prop) : Prop where
  depth_le : v.raw.depth ≤ depth
  interprets : ∃ w, v.raw.interpret = some w ∧ p w

/-- The text that is written for the value `v` has a value. -/
def Readable (depth : Nat) (v : Json) : Prop := Reads depth v fun _ => True

section Texts

variable {depth : Nat} {v : Json} {p : Json → Prop}

theorem Reads.mono {q : Json → Prop} (h : Reads depth v p) (hp : ∀ w, p w → q w) :
    Reads depth v q := by
  obtain ⟨w, hw, hpw⟩ := h.interprets
  exact ⟨h.depth_le, w, hw, hp w hpw⟩

theorem Reads.value? (h : Reads depth v p) (hdepth : depth ≤ Raw.maxDepth) :
    ∃ w, v.raw.value? = some w ∧ p w := by
  rw [Raw.value?, if_pos (h.depth_le.trans hdepth)]
  exact h.interprets

/-- The text of `v` without white space is read. -/
theorem Reads.compact (h : Reads depth v p) (hdepth : depth ≤ Raw.maxDepth) :
    ∃ w, ofText? v.compact = some w ∧ p w := by
  rw [ofText?, ofText?_compact]
  exact h.value? hdepth

/-- The text of `v` on lines is read. -/
theorem Reads.pretty (h : Reads depth v p) (hdepth : depth ≤ Raw.maxDepth) :
    ∃ w, ofText? v.pretty = some w ∧ p w := by
  rw [ofText?, ofText?_pretty]
  exact h.value? hdepth

end Texts

section Leaves

variable (depth : Nat)

theorem reads_null : Reads depth null (· = null) := ⟨Nat.zero_le _, null, rfl, rfl⟩

theorem reads_bool (b : Bool) : Reads depth (bool b) (· = bool b) := ⟨Nat.zero_le _, _, rfl, rfl⟩

theorem reads_string (s : String) : Reads depth (string s) (· = string s) :=
  ⟨Nat.zero_le _, _, rfl, rfl⟩

theorem reads_ofOption (s : Option String) : Reads depth (ofOption s) (· = ofOption s) := by
  cases s with
  | none => exact reads_null depth
  | some s => exact reads_string depth s

theorem reads_int {n : Int} (h : Number.minSigned ≤ n ∧ n ≤ Number.maxUnsigned) :
    Reads depth (int n) (· = int n) :=
  ⟨Nat.zero_le _, _, Numeral.value?_ofInt h, rfl⟩

theorem reads_nat {n : Nat} (h : n ≤ Number.maxUnsigned) : Reads depth (nat n) (· = nat n) :=
  reads_int depth ⟨by unfold Number.minSigned; omega, by exact_mod_cast h⟩

@[simp]
theorem readable_null : Readable depth null := (reads_null depth).mono fun _ _ => trivial

@[simp]
theorem readable_bool (b : Bool) : Readable depth (bool b) :=
  (reads_bool depth b).mono fun _ _ => trivial

@[simp]
theorem readable_string (s : String) : Readable depth (string s) :=
  (reads_string depth s).mono fun _ _ => trivial

@[simp]
theorem readable_int {n : Int} (h : Number.minSigned ≤ n ∧ n ≤ Number.maxUnsigned) :
    Readable depth (int n) :=
  (reads_int depth h).mono fun _ _ => trivial

theorem depth_raw_float (x : Float) : (float x).raw.depth = 0 := by
  rw [raw]
  split <;> rfl

/-- A text that has a value is that of a `Readable` one. -/
theorem readable_of_ofText? {v w : Json} (h : ofText? v.compact = some w)
    (hdepth : v.raw.depth ≤ depth) : Readable depth v := by
  obtain ⟨tree, htree, hvalue⟩ := exists_raw_of_ofText? h
  obtain rfl := Option.some.inj ((ofText?_compact v).symm.trans htree)
  exact ⟨hdepth, w, hvalue, trivial⟩

end Leaves

section Nested

variable {depth : Nat}

private theorem exists_interpretItems {α : Type} {write : α → Json} {p : α → Json → Prop}
    {as : List α} (h : ∀ a ∈ as, Reads depth (write a) (p a)) :
    Raw.depthItems (rawItems (as.map write)) ≤ depth ∧
      ∃ vs, Raw.interpretItems (rawItems (as.map write)) = some vs ∧ List.Forall₂ p as vs := by
  induction as with
  | nil => exact ⟨Nat.zero_le _, [], rfl, .nil⟩
  | cons a as ih =>
    obtain ⟨ha, has⟩ := List.forall_mem_cons.mp h
    obtain ⟨hdepth, vs, hvs, hps⟩ := ih has
    obtain ⟨w, hw, hp⟩ := ha.interprets
    refine ⟨max_le ha.depth_le hdepth, w :: vs, ?_, .cons hp hps⟩
    rw [List.map_cons, rawItems, Raw.interpretItems, hw, hvs]
    rfl

/-- An array is read item by item, each of them as `write` writes it. -/
theorem reads_array {α : Type} {write : α → Json} {p : α → Json → Prop} {as : List α}
    (h : ∀ a ∈ as, Reads depth (write a) (p a)) :
    Reads (depth + 1) (array (as.map write)) (Lists p as) := by
  obtain ⟨hdepth, vs, hvs, hps⟩ := exists_interpretItems h
  refine ⟨Nat.succ_le_succ hdepth, array vs, ?_, vs, rfl, hps⟩
  rw [raw, Raw.interpret, hvs, Option.map_some]

private theorem exists_interpretMembers {members : List (String × Json)}
    {fields : List (String × (Json → Prop))} (hnodup : (fields.map (·.1)).Nodup)
    (h : List.Forall₂ (fun m field => m.1 = field.1 ∧ Reads depth m.2 field.2) members fields) :
    Raw.depthMembers (rawMembers members) ≤ depth ∧
      ∃ t, Raw.interpretMembers (rawMembers members) = some t ∧ t.Sorted ∧
        (∀ name, name ∈ t.keys ↔ name ∈ fields.map (·.1)) ∧
        ∀ field ∈ fields, ∃ w, t.find? field.1 = some w ∧ field.2 w := by
  induction h with
  | nil => exact ⟨Nat.zero_le _, .empty, rfl, Table.sorted_empty, fun _ => Iff.rfl, nofun⟩
  | @cons m field ms fields hm _ ih =>
    obtain ⟨hnotMem, hnodup⟩ := List.nodup_cons.mp hnodup
    obtain ⟨hdepth, t, ht, hsorted, hkeys, hfields⟩ := ih hnodup
    obtain ⟨hname, hreads⟩ := hm
    obtain ⟨w, hw, hp⟩ := hreads.interprets
    -- no later member has this name, so this one is not passed over
    have hnew : t.find? field.1 = none := by
      rw [Option.eq_none_iff_forall_not_mem]
      exact fun value hvalue => hnotMem ((hkeys _).mp (Table.mem_keys_iff.mpr ⟨value, hvalue⟩))
    refine ⟨max_le hreads.depth_le hdepth, Raw.consMember field.1 w t, ?_, hsorted.alter _ _, ?_,
      ?_⟩
    · rw [rawMembers, Raw.interpretMembers, hw, ht, hname]
      rfl
    · intro name
      rw [Raw.consMember, Table.mem_keys_alter, hkeys, List.map_cons, List.mem_cons]
    · intro other hother
      rw [Raw.consMember, hsorted.find?_alter]
      rcases List.mem_cons.mp hother with rfl | hother
      · rw [if_pos rfl, hnew, Option.getD_none]
        exact ⟨w, rfl, hp⟩
      · have hne : other.1 ≠ field.1 := fun heq =>
          hnotMem (List.mem_map.mpr ⟨other, hother, heq⟩)
        rw [if_neg hne]
        exact hfields other hother

/-- An object whose names are all different is read member by member, as its `fields` say. -/
theorem reads_object {members : List (String × Json)} {fields : List (String × (Json → Prop))}
    (hnodup : (fields.map (·.1)).Nodup)
    (h : List.Forall₂ (fun m field => m.1 = field.1 ∧ Reads depth m.2 field.2) members fields) :
    Reads (depth + 1) (object members) (Consists · fields) := by
  obtain ⟨hdepth, t, ht, hsorted, hkeys, hfields⟩ := exists_interpretMembers hnodup h
  refine ⟨Nat.succ_le_succ hdepth, object t.entries, ?_, t.entries, rfl, ?_, ?_⟩
  · rw [raw, Raw.interpret, ht, Option.map_some]
  · exact (List.perm_ext_iff_of_nodup hsorted.nodup_keys hnodup).mpr hkeys
  · intro field hfield
    rw [member?_object hsorted]
    exact hfields field hfield

/-- An array is `Readable` if its items are. -/
theorem readable_array {α : Type} {write : α → Json} {as : List α}
    (h : ∀ a ∈ as, Readable depth (write a)) : Readable (depth + 1) (array (as.map write)) :=
  (reads_array h).mono fun _ _ => trivial

/-- An object with different names is `Readable` if its members are. -/
theorem readable_object {members : List (String × Json)} (hnodup : (members.map (·.1)).Nodup)
    (h : ∀ m ∈ members, Readable depth m.2) : Readable (depth + 1) (object members) := by
  have hreads : Reads (depth + 1) (object members)
      (Consists · (members.map fun m => (m.1, fun _ => True))) := by
    refine reads_object ?_ ?_
    · rwa [List.map_map]
    · rw [List.forall₂_map_right_iff, List.forall₂_same]
      exact fun m hm => ⟨rfl, h m hm⟩
  exact hreads.mono fun _ _ => trivial

end Nested

/-! ### Telling texts apart -/

/-- Values `v` and `w` with the same text on lines have the same tree. -/
theorem raw_eq_of_pretty_eq {v w : Json} (h : v.pretty = w.pretty) : v.raw = w.raw := by
  have hread := ofText?_pretty v
  rw [h, ofText?_pretty] at hread
  exact (Option.some.inj hread).symm

/-- What `write` writes can be told apart by its tree. -/
def Tells {α : Type} (write : α → Json) : Prop := Function.Injective fun a => (write a).raw

theorem tells_string : Tells string := fun _ _ h =>
  Option.some.inj (Raw.string.inj h)

theorem tells_nat : Tells nat := fun _ _ h =>
  Int.ofNat.inj (Numeral.ofInt_injective (Raw.number.inj h))

theorem tells_bool : Tells bool := fun _ _ h => Raw.bool.inj h

theorem tells_ofOption : Tells ofOption := by
  rintro (_ | s) (_ | s') h
  · rfl
  · cases h
  · cases h
  · exact congrArg some (tells_string h)

/-- What is found again by its `name` has a name of its own. -/
theorem injective_of_ofName? {α : Type} {name : α → String} {ofName? : String → Option α}
    (h : ∀ a, ofName? (name a) = some a) : Function.Injective name := fun a a' heq => by
  rw [← Option.some_inj, ← h a, heq, h a']

/-- What is written by a `name` of its own can be told apart. -/
theorem tells_named {α : Type} {name : α → String} (h : Function.Injective name) :
    Tells fun a => string (name a) := fun _ _ heq => h (tells_string heq)

/-- Lists can be told apart if `write` tells their elements apart. -/
theorem Tells.array {α : Type} {write : α → Json} (h : Tells write) :
    Tells fun as : List α => array (as.map write) := by
  intro as as' heq
  have hitems := Raw.array.inj heq
  rw [rawItems_eq_map, rawItems_eq_map, List.map_map, List.map_map] at hitems
  exact List.map_injective_iff.mpr h hitems

end RouterTrial.Json
