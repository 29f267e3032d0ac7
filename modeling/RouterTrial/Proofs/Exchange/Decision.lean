import RouterTrial.Exchange.DecisionService

/-!
# What an answer decides

The decision service may answer anything. `Answer.Undecided` lists the ways in which an answer
decides nothing, from an exchange that failed to a gateway whose name is blank, and `Answer.Names`
says when it decides on a connector. Every answer does one or the other, and the decision that is
read from it names the connector of the answer, if it has one.
-/

namespace RouterTrial

/-- The gateway that the value `v` names, or that it names none, unless it names something else. -/
def Json.gateway? (v : Json) : Option (Option String) := v.optional? "decided_gateway" Json.string?

namespace Answer

/-- An answer that decides on no connector. -/
inductive Undecided : Answer → Prop
  /-- There was no reply. -/
  | failed : Undecided .failed
  /-- The body broke off. -/
  | brokenOff {r : Reply} (h : r.complete = false) : Undecided (.reply r)
  /-- The status is none of success. -/
  | refused {r : Reply} (h : ¬(200 ≤ r.status ∧ r.status < 300)) : Undecided (.reply r)
  /-- The body is no decision. -/
  | unreadable {r : Reply} {text : String} {fault : DecisionFault} (htext : r.text? = some text)
      (h : Decision.ofText? text = .error fault) : Undecided (.reply r)
  /-- The body names no gateway. -/
  | unnamed {r : Reply} {text : String} {v : Json} (htext : r.text? = some text)
      (hvalue : Json.ofText? text = some v) (h : v.gateway? = some none) : Undecided (.reply r)
  /-- The name of the gateway is blank. -/
  | blank {r : Reply} {text name : String} {v : Json} (htext : r.text? = some text)
      (hvalue : Json.ofText? text = some v) (h : v.gateway? = some (some name))
      (hblank : Text.isBlankText name = true) : Undecided (.reply r)

/-- An answer that decides on a connector: the reply is one of success, its body is a decision, and
the gateway that it names is not blank. -/
inductive Names : Answer → String → Prop
  | intro {r : Reply} {text name : String} {v : Json} {d : Decision}
      (hstatus : 200 ≤ r.status ∧ r.status < 300) (htext : r.text? = some text)
      (hdecision : Decision.ofText? text = .ok d) (hvalue : Json.ofText? text = some v)
      (h : v.gateway? = some (some name)) (hblank : Text.isBlankText name = false) :
      Names (.reply r) name

end Answer

/-! ### Reading -/

theorem Reply.isSuccess_iff {r : Reply} :
    r.isSuccess = true ↔ 200 ≤ r.status ∧ r.status < 300 := by
  rw [isSuccess, Bool.and_eq_true, decide_eq_true_iff, decide_eq_true_iff]

/-- The decision `d` has the connector that `text` names, unless the name is blank. -/
theorem Decision.connector_of_ofText? {text : String} {d : Decision} (h : ofText? text = .ok d) :
    ∃ v named, Json.ofText? text = some v ∧ v.gateway? = some named ∧
      d.connector = named.filter (!Text.isBlankText ·) := by
  rw [ofText?] at h
  split at h
  · cases h
  rename_i v hvalue
  cases v with
  | object members =>
    rw [ofJson?, ofMembers?] at h
    split at h
    · rename_i named scores approach hnamed _ _
      cases hscores : scores? (scores.getD []) with
      | error fault =>
        rw [hscores] at h
        cases h
      | ok table =>
        rw [hscores] at h
        obtain rfl := Except.ok.inj h
        exact ⟨_, named, hvalue, hnamed, rfl⟩
    · cases h
  | null | bool _ | int _ | float _ | string _ | array _ => cases h

namespace DecisionService

/-- Of a reply `r` of success the body is read. -/
private theorem readDecision?_of_isSuccess {r : Reply} {text : String}
    (hsuccess : r.isSuccess = true) (htext : r.text? = some text) :
    readDecision? (.reply r) = (Decision.ofText? text).mapError DecisionFault.fault := by
  rw [readDecision?, htext]
  exact if_pos hsuccess

/-- A connector is read only from a reply of success whose body is a decision, as `Decision.ofText?`
reads it. -/
private theorem exists_of_readDecision {a : Answer} {name : String}
    (h : (readDecision a).connector = some name) :
    ∃ r text d, a = .reply r ∧ r.isSuccess = true ∧ r.text? = some text ∧
      Decision.ofText? text = .ok d ∧ d.connector = some name := by
  rw [readDecision] at h
  cases a with
  | failed => cases h
  | reply r =>
    cases htext : r.text? with
    | none =>
      rw [readDecision?, htext] at h
      cases h
    | some text =>
      cases hsuccess : r.isSuccess with
      | false =>
        rw [readDecision?, htext, hsuccess] at h
        cases h
      | true =>
        rw [readDecision?_of_isSuccess hsuccess htext] at h
        cases hdecision : Decision.ofText? text with
        | error fault =>
          rw [hdecision] at h
          cases h
        | ok d =>
          rw [hdecision] at h
          exact ⟨r, text, d, rfl, hsuccess, htext, hdecision, h⟩

/-- From an answer that `Names` a connector it is read. -/
theorem readDecision_of_names {a : Answer} {name : String} (h : a.Names name) :
    (readDecision a).connector = some name := by
  obtain @⟨r, text, name, v, d, hstatus, htext, hdecision, hvalue, hgateway, hblank⟩ := h
  obtain ⟨v, named, hvalue', hnamed, hconnector⟩ := Decision.connector_of_ofText? hdecision
  obtain rfl := Option.some.inj (hvalue'.symm.trans hvalue)
  obtain rfl := Option.some.inj (hnamed.symm.trans hgateway)
  rw [readDecision, readDecision?_of_isSuccess (Reply.isSuccess_iff.mpr hstatus) htext, hdecision]
  change d.connector = some name
  rw [hconnector, Option.filter_some, hblank]
  rfl

/-- From an answer that is `Undecided` no connector is read. -/
theorem readDecision_of_undecided {a : Answer} (h : a.Undecided) :
    (readDecision a).connector = none := by
  rw [Option.eq_none_iff_forall_not_mem]
  intro name hname
  obtain ⟨r, text, d, rfl, hsuccess, htext, hdecision, hd⟩ := exists_of_readDecision hname
  obtain ⟨v, named, hvalue, hnamed, hconnector⟩ := Decision.connector_of_ofText? hdecision
  rw [hd] at hconnector
  cases h with
  | brokenOff hbroken =>
    rw [Reply.text?, hbroken] at htext
    cases htext
  | refused hrefused => exact hrefused (Reply.isSuccess_iff.mp hsuccess)
  | unreadable htext' hfault =>
    obtain rfl := Option.some.inj (htext.symm.trans htext')
    cases hdecision.symm.trans hfault
  | unnamed htext' hvalue' hnone =>
    obtain rfl := Option.some.inj (htext.symm.trans htext')
    obtain rfl := Option.some.inj (hvalue.symm.trans hvalue')
    obtain rfl := Option.some.inj (hnamed.symm.trans hnone)
    cases hconnector
  | blank htext' hvalue' hsome hblank =>
    obtain rfl := Option.some.inj (htext.symm.trans htext')
    obtain rfl := Option.some.inj (hvalue.symm.trans hvalue')
    obtain rfl := Option.some.inj (hnamed.symm.trans hsome)
    rw [Option.filter_some, hblank] at hconnector
    cases hconnector

/-- Every answer `a` decides on a connector or on none. -/
theorem undecided_or_names (a : Answer) : a.Undecided ∨ ∃ name, a.Names name := by
  cases a with
  | failed => exact .inl .failed
  | reply r =>
    cases hcomplete : r.complete with
    | false => exact .inl (.brokenOff hcomplete)
    | true =>
      obtain ⟨text, htext⟩ : ∃ text, r.text? = some text := ⟨_, if_pos hcomplete⟩
      by_cases hstatus : 200 ≤ r.status ∧ r.status < 300
      · cases hdecision : Decision.ofText? text with
        | error fault => exact .inl (.unreadable htext hdecision)
        | ok d =>
          obtain ⟨v, named, hvalue, hnamed, -⟩ := Decision.connector_of_ofText? hdecision
          cases named with
          | none => exact .inl (.unnamed htext hvalue hnamed)
          | some name =>
            cases hblank : Text.isBlankText name with
            | true => exact .inl (.blank htext hvalue hnamed hblank)
            | false => exact .inr ⟨name, hstatus, htext, hdecision, hvalue, hnamed, hblank⟩
      · exact .inl (.refused hstatus)

/-- The connector that is read from the answer `a` is the one that it decides on. -/
theorem names_iff {a : Answer} {name : String} :
    a.Names name ↔ (readDecision a).connector = some name := by
  refine ⟨readDecision_of_names, fun h => ?_⟩
  rcases undecided_or_names a with hundecided | ⟨other, hother⟩
  · cases (readDecision_of_undecided hundecided).symm.trans h
  · obtain rfl := Option.some.inj ((readDecision_of_names hother).symm.trans h)
    exact hother

/-- No connector is read from the answer `a` exactly if it decides on none. -/
theorem undecided_iff {a : Answer} : a.Undecided ↔ (readDecision a).connector = none := by
  refine ⟨readDecision_of_undecided, fun h => ?_⟩
  rcases undecided_or_names a with hundecided | ⟨other, hother⟩
  · exact hundecided
  · cases (readDecision_of_names hother).symm.trans h

end DecisionService

namespace Answer

/-- An answer that is `Undecided` names no connector. -/
theorem Undecided.not_names {a : Answer} (h : a.Undecided) (name : String) : ¬a.Names name := by
  intro hnames
  rw [DecisionService.undecided_iff] at h
  rw [DecisionService.names_iff, h] at hnames
  cases hnames

/-- An answer that names the connector `name` names no other one. -/
theorem Names.names_iff_eq {a : Answer} {name name' : String} (h : a.Names name) :
    a.Names name' ↔ name = name' := by
  rw [DecisionService.names_iff] at h ⊢
  rw [h, Option.some_inj]

end Answer

end RouterTrial
