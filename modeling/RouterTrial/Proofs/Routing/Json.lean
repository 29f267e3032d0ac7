import RouterTrial.Proofs.Json.Value
import RouterTrial.Routing.Json

/-!
# Decisions that are read

Which texts are decisions, and which decision each of them is. A text is one if its value is an
object with the members of a decision (`Schema`), each of which may be missing or null. The decision
is then the one that the members write (`Written`), where every score is kept between zero and one
(`Clamped`).

What is read as scores has to be finite, or there is no decision. The numbers of a text are finite,
and so are its scores (`scoreMembers_of_interpret`): no text fails for a score that is not finite.
-/

namespace RouterTrial.Decision

open Json (Raw LastWins)

/-! ### Scores -/

/-- The number `y` is `x`, kept between zero and one. -/
structure Clamped (x y : Float) : Prop where
  nonneg : 0 ≤ y
  le_one : y ≤ 1
  inside : 0 ≤ x → x ≤ 1 → y = x
  below : x < 0 → y = 0
  above : 1 < x → y = 1

theorem clamped_clampScore {x : Float} (h : x.isFinite = true) : Clamped x (clampScore x) := by
  have hzero : (0 : Float).isFinite = true := Number.isFinite_ofNat (by decide)
  have hone : (1 : Float).isFinite = true := Number.isFinite_ofNat (by decide)
  rw [clampScore]
  by_cases hbelow : x < 0
  · rw [if_pos hbelow]
    exact
      { nonneg := by decide
        le_one := by decide
        inside := fun hnonneg _ => absurd hbelow (Number.not_lt_of_le hnonneg)
        below := fun _ => rfl
        above := fun habove => absurd habove (Number.not_one_lt_of_neg hbelow) }
  · rw [if_neg hbelow]
    by_cases habove : 1 < x
    · rw [if_pos habove]
      exact
        { nonneg := by decide
          le_one := by decide
          inside := fun _ hle => absurd habove (Number.not_lt_of_le hle)
          below := fun h => absurd h hbelow
          above := fun _ => rfl }
    · rw [if_neg habove]
      exact
        { nonneg := Number.le_of_not_lt h hzero hbelow
          le_one := Number.le_of_not_lt hone h habove
          inside := fun _ _ => rfl
          below := fun h => absurd h hbelow
          above := fun h => absurd h habove }

/-- The `scores` that are in order and finite are kept, each between zero and one. -/
private theorem scores?_of_forall₂ {members : List (String × Json)} {scores : List (String × Float)}
    (hread : List.Forall₂ (fun m s => m.1 = s.1 ∧ m.2.float? = some s.2) members scores)
    (horder : members.Pairwise fun m m' => compare m.1 m'.1 = .lt)
    (hfinite : ∀ m ∈ members, ∀ x, m.2.float? = some x → x.isFinite = true) :
    ∃ t, scores? scores = .ok t ∧ t.Sorted ∧
      List.Forall₂ (fun m s => m.1 = s.1 ∧ ∃ x, m.2.float? = some x ∧ Clamped x s.2)
        members t.entries := by
  have hnames : members.map (·.1) = scores.map (·.1) := by
    rw [← List.forall₂_eq_eq_eq, List.forall₂_map_left_iff, List.forall₂_map_right_iff]
    exact hread.imp fun _ _ h => h.1
  have hall : List.Forall₂ (fun m s => s.2.isFinite = true ∧ m.1 = s.1 ∧ m.2.float? = some s.2)
      members scores :=
    ((List.forall₂_and_left members scores).mpr ⟨hfinite, hread⟩).imp fun _ s h =>
      ⟨h.1 s.2 h.2.2, h.2⟩
  have hnone : (scores.find? fun s => !s.2.isFinite) = none := by
    rw [List.find?_eq_none]
    intro s hs
    rw [((List.forall₂_and_left scores members).mp hall.flip).1 s hs]
    decide
  have hsorted : (scores.map fun s => (s.1, clampScore s.2)).Pairwise
      fun e e' => compare e.1 e'.1 = .lt := by
    have hkeys : (members.map (·.1)).Pairwise fun k k' => compare k k' = .lt :=
      List.pairwise_map.mpr horder
    rw [hnames] at hkeys
    exact List.pairwise_map.mpr (List.pairwise_map.mp hkeys)
  have hentries := Table.entries_ofList hsorted
  refine ⟨_, by rw [scores?, hnone], ?_, ?_⟩
  · rw [Table.Sorted, Table.keys, hentries]
    exact List.pairwise_map.mpr hsorted
  · rw [hentries, List.forall₂_map_right_iff]
    exact hall.imp fun m s h => ⟨h.2.1, s.2, h.2.2, clamped_clampScore h.1⟩

/-! ### Members -/

/-- The value `v` has the members of a decision. -/
structure Schema (v : Json) : Prop where
  gateway : v.OptionalString "decided_gateway"
  scores : v.OptionalNumbers "gateway_priority_map"
  approach : v.OptionalString "routing_approach"

/-- The members of the priority map of `v`, none if there is no map. -/
def scoreMembers (v : Json) : List (String × Json) :=
  match v.member? "gateway_priority_map" with
  | some (.object members) => members
  | _ => []

/-- The decision `d` is the one that the members of `v` write. -/
structure Written (v : Json) (d : Decision) : Prop where
  connector : ∀ name, d.connector = some name ↔
    v.member? "decided_gateway" = some (.string name) ∧ ∃ c ∈ name.toList, Text.isBlank c = false
  sorted : d.scores.Sorted
  scores : List.Forall₂ (fun m s => m.1 = s.1 ∧ ∃ x, m.2.float? = some x ∧ Clamped x s.2)
    (scoreMembers v) d.scores.entries
  approach : d.approach.text =
    match v.member? "routing_approach" with
    | some (.string text) => text
    | _ => "UNKNOWN"
  mode : d.mode = .exploitation ↔ d.approach.text = "SR_SELECTION_V3_ROUTING"

/-! ### Reading -/

theorem mode_eq_exploitation_iff (d : Decision) :
    d.mode = .exploitation ↔ d.approach.text = "SR_SELECTION_V3_ROUTING" := by
  obtain ⟨connector, scores, ⟨text⟩⟩ := d
  rw [mode, Approach.mode]
  split
  · rename_i h
    exact iff_of_true rfl (congrArg Approach.text h)
  · rename_i h
    exact iff_of_false nofun fun htext => h (congrArg Approach.mk htext)

theorem isBlankText_eq_false_iff {name : String} :
    Text.isBlankText name = false ↔ ∃ c ∈ name.toList, Text.isBlank c = false := by
  rw [Text.isBlankText, List.all_eq_false]
  simp only [Bool.not_eq_true]

/-- The connector of a decision is the gateway that is `named`, if its name is not blank. -/
theorem filter_eq_some_iff {named : Option String} {name : String} :
    named.filter (!Text.isBlankText ·) = some name ↔
      named = some name ∧ ∃ c ∈ name.toList, Text.isBlank c = false := by
  rw [Option.filter_eq_some_iff, ← isBlankText_eq_false_iff, Bool.not_eq_true']

/-- The `scores` that are read are those of the priority map of `v`. -/
private theorem forall₂_of_optional?_numbers? {v : Json} {scores : Option (List (String × Float))}
    (h : v.optional? "gateway_priority_map" Json.numbers? = some scores) :
    List.Forall₂ (fun m s => m.1 = s.1 ∧ m.2.float? = some s.2) (scoreMembers v)
      (scores.getD []) := by
  rw [Json.optional?_eq_some_iff rfl] at h
  rcases h with ⟨hmissing | hmissing, rfl⟩ | ⟨member, read, hmember, hread, rfl⟩
  · rw [scoreMembers, hmissing]
    exact .nil
  · rw [scoreMembers, hmissing]
    exact .nil
  · rw [scoreMembers, hmember]
    cases member with
    | object ms => exact Json.numbers?_eq_some_iff.mp hread
    | null | bool _ | int _ | float _ | string _ | array _ => cases hread

private theorem text_of_optional?_string? {v : Json} {approach : Option String}
    (h : v.optional? "routing_approach" Json.string? = some approach) :
    ((approach.map Approach.mk).getD .unknown).text =
      match v.member? "routing_approach" with
      | some (.string text) => text
      | _ => "UNKNOWN" := by
  have heq := @Json.eq_some_iff_of_optional?_string? _ _ _ h
  cases approach with
  | some text => rw [(heq (s := text)).mp rfl]; rfl
  | none =>
    split
    · rename_i text htext
      cases heq.mpr htext
    · rfl

/-- A value `v` whose scores are in order and finite is read exactly if it has the members of a
decision. -/
private theorem ofMembers?_cases {v : Json}
    (horder : (scoreMembers v).Pairwise fun m m' => compare m.1 m'.1 = .lt)
    (hfinite : ∀ m ∈ scoreMembers v, ∀ x, m.2.float? = some x → x.isFinite = true) :
    (Schema v ∧ ∃ d, ofMembers? v = .ok d ∧ Written v d) ∨
      (¬Schema v ∧ ofMembers? v = .error .malformed) := by
  rw [ofMembers?]
  split
  · rename_i connector scores approach hconnector hscores happroach
    obtain ⟨t, ht, hsorted, hentries⟩ :=
      scores?_of_forall₂ (forall₂_of_optional?_numbers? hscores) horder hfinite
    rw [ht]
    refine .inl ⟨⟨Json.optionalString_iff.mpr ⟨_, hconnector⟩,
      Json.optionalNumbers_iff.mpr ⟨_, hscores⟩, Json.optionalString_iff.mpr ⟨_, happroach⟩⟩,
      _, rfl, ?_⟩
    exact
      { connector := fun name => by
          rw [filter_eq_some_iff, Json.eq_some_iff_of_optional?_string? hconnector]
        sorted := hsorted
        scores := hentries
        approach := text_of_optional?_string? happroach
        mode := mode_eq_exploitation_iff _ }
  · rename_i hnone
    refine .inr ⟨fun h => ?_, rfl⟩
    obtain ⟨connector, hconnector⟩ := Json.optionalString_iff.mp h.gateway
    obtain ⟨scores, hscores⟩ := Json.optionalNumbers_iff.mp h.scores
    obtain ⟨approach, happroach⟩ := Json.optionalString_iff.mp h.approach
    exact hnone _ _ _ hconnector hscores happroach

/-- The members of the priority map of the value `v` of a text are in order and finite. -/
private theorem scoreMembers_of_interpret {tree : Raw} {v : Json} (h : tree.interpret = some v) :
    ((scoreMembers v).Pairwise fun m m' => compare m.1 m'.1 = .lt) ∧
      ∀ m ∈ scoreMembers v, ∀ x, m.2.float? = some x → x.isFinite = true := by
  unfold scoreMembers
  split
  · rename_i inner hinner
    cases v with
    | object members =>
      obtain ⟨trees, rfl, hlast, -, -⟩ := Json.exists_trees_of_interpret h
      rw [hlast] at hinner
      obtain ⟨tree, -, htree⟩ := Option.bind_eq_some_iff.mp hinner
      obtain ⟨-, -, -, horder, hfinite⟩ := Json.exists_trees_of_interpret htree
      exact ⟨horder, hfinite⟩
    | null | bool _ | int _ | float _ | string _ | array _ => cases hinner
  · exact ⟨.nil, nofun⟩

private theorem ofText?_cases (text : String) :
    (∃ members d, Json.ofText? text = some (.object members) ∧ Schema (.object members) ∧
        ofText? text = .ok d ∧ Written (.object members) d) ∨
      ((¬∃ members, Json.ofText? text = some (.object members) ∧ Schema (.object members)) ∧
        ∃ cause, ofText? text = .error cause ∧ ∀ connector, cause ≠ .nonFinite connector) := by
  cases hvalue : Json.ofText? text with
  | none =>
    refine .inr ⟨nofun, .malformed, ?_, nofun⟩
    rw [ofText?, hvalue]
  | some v =>
    have hread : ofText? text = ofJson? v := by rw [ofText?, hvalue]
    rw [hread]
    cases v with
    | object members =>
      obtain ⟨tree, -, htree⟩ := Json.exists_raw_of_ofText? hvalue
      obtain ⟨horder, hfinite⟩ := scoreMembers_of_interpret htree
      rcases ofMembers?_cases horder hfinite with ⟨hschema, d, hd, hwritten⟩ | ⟨hschema, herror⟩
      · exact .inl ⟨members, d, rfl, hschema, hd, hwritten⟩
      · refine .inr ⟨?_, .malformed, herror, nofun⟩
        rintro ⟨members', hmembers, h⟩
        obtain rfl := Json.object.inj (Option.some.inj hmembers)
        exact hschema h
    | null | bool _ | int _ | float _ | string _ | array _ =>
      refine .inr ⟨?_, .notAnObject, rfl, nofun⟩
      rintro ⟨_, hmembers, -⟩
      cases hmembers

/-- **Decisions.** A `text` is read as a decision exactly if it is an object with the members of one
(`Schema`), and the decision is then the one that its members write (`Written`). Every other text is
malformed, and no text has a score that is not finite. -/
theorem exists_ofText?_iff_and_written (text : String) :
    (∀ members, Json.ofText? text = some (.object members) →
        ∃ trees, Raw.ofText? text = some (.object trees) ∧ LastWins trees members ∧
          ∀ name inner, (Json.object members).member? name = some (.object inner) →
            ∃ innerTrees, Raw.last? name trees = some (.object innerTrees) ∧
              LastWins innerTrees inner) ∧
      ((∃ d, ofText? text = .ok d) ↔
        ∃ members, Json.ofText? text = some (.object members) ∧ Schema (.object members)) ∧
      (∀ cause, ofText? text = .error cause →
        (∃ message, cause.fault = .decode message) ∧ ∀ connector, cause ≠ .nonFinite connector) ∧
      ∀ d, ofText? text = .ok d →
        ∃ members, Json.ofText? text = some (.object members) ∧ Written (.object members) d := by
  refine ⟨fun members hvalue => ?_, ?_⟩
  · obtain ⟨tree, htree, hinterpret⟩ := Json.exists_raw_of_ofText? hvalue
    obtain ⟨trees, rfl, hlast, -, -⟩ := Json.exists_trees_of_interpret hinterpret
    refine ⟨trees, htree, hlast, fun name inner hinner => ?_⟩
    rw [hlast] at hinner
    obtain ⟨tree, hname, hinner⟩ := Option.bind_eq_some_iff.mp hinner
    obtain ⟨innerTrees, rfl, hlast', -, -⟩ := Json.exists_trees_of_interpret hinner
    exact ⟨innerTrees, hname, hlast'⟩
  · rcases ofText?_cases text with
      ⟨members, d, hvalue, hschema, hd, hwritten⟩ | ⟨hschema, cause, herror, hfinite⟩
    · rw [hd]
      refine ⟨iff_of_true ⟨d, rfl⟩ ⟨members, hvalue, hschema⟩, nofun, fun d' hd' => ?_⟩
      obtain rfl := Except.ok.inj hd'
      exact ⟨members, hvalue, hwritten⟩
    · rw [herror]
      refine ⟨iff_of_false nofun hschema, fun cause' hcause => ?_, nofun⟩
      obtain rfl := Except.error.inj hcause
      exact ⟨⟨_, rfl⟩, hfinite⟩

end RouterTrial.Decision
