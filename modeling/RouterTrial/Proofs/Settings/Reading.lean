import RouterTrial.Proofs.Settings
import RouterTrial.Proofs.Text.Blank

/-!
# Settings that are read

What becomes of a value that is looked up. A typed setting has a parser of its own, and `typed`
lists the names with what their parsers accept, in the order of their reading. A value that is not
blank and that its parser does not accept is listed, under its name and trimmed, and no other value
is; the check of the settings fails for that list before it looks at anything else. If the list is
empty, every typed setting has the value that its parser reads, or its default if it is blank.

The settings are read independently of each other: a change of one value leaves all fields of other
names as they are.
-/

namespace RouterTrial

/-! ### Values that are entered -/

/-- A value stands under `name` that is not blank, and `text` is it without the white space around
it. -/
def Lookup.Enters (lookup : Lookup) (name text : String) : Prop :=
  ∃ raw, lookup name = some raw ∧ (∃ c ∈ raw.toList, Text.isBlank c = false) ∧ text = Text.trim raw

theorem Lookup.present_eq_some_iff {lookup : Lookup} {name text : String} :
    lookup.present name = some text ↔ lookup.Enters name text := by
  rw [present, Option.filter_eq_some_iff, Bool.not_eq_true', Option.map_eq_some_iff, Enters]
  constructor
  · rintro ⟨⟨raw, hraw, rfl⟩, hempty⟩
    exact ⟨raw, hraw, Text.isEmpty_trim_eq_false_iff.mp hempty, rfl⟩
  · rintro ⟨raw, hraw, hblank, rfl⟩
    exact ⟨⟨raw, hraw, rfl⟩, Text.isEmpty_trim_eq_false_iff.mpr hblank⟩

namespace Settings

/-! ### Values that cannot be read -/

/-- A typed setting: its name, and the texts that its parser accepts. -/
structure Reader where
  name : String
  accepts : String → Bool

/-- The setting with this `name`, of which `parse` reads the value. -/
def reader {α : Type} (name : String) (parse : String → Option α) : Reader :=
  ⟨name, fun text => (parse text).isSome⟩

/-- The typed settings in the order of their reading, each with its `Reader`. -/
def typed : List Reader :=
  [reader "SIM_TOTAL_PAYMENTS" Number.signed?, reader "SIM_SUCCESS_PERCENT" Number.signed?,
    reader "SIM_POOL_SIZE" Number.signed?, reader "SIM_INITIAL_DELAY_MS" Number.unsigned?,
    reader "SIM_INTER_PAYMENT_SLEEP_MS" Number.unsigned?, reader "SIM_SEED" Number.unsigned?,
    reader "SIM_HTTP_TIMEOUT_MS" Number.unsigned?, reader "SIM_RANKING_ALGORITHM" Ranking.ofText?,
    reader "SIM_ELIMINATION_ENABLED" fun text => truthOfWord? (Text.lower text),
    reader "SIM_REPORT_FORMAT" ReportFormat.ofText?,
    reader "SIM_CONNECTOR_SUCCESS_RATES" connectorRates?]

/-- The `text` is entered for the typed setting with this `name`, and its parser does not accept
it. -/
def Misread (lookup : Lookup) (name text : String) : Prop :=
  ∃ r ∈ typed, r.name = name ∧ lookup.Enters name text ∧ r.accepts text = false

/-- The entry of the list for the typed setting `r`, if its value cannot be read. -/
def rejection (lookup : Lookup) (r : Reader) : List Rejected :=
  match lookup.present r.name with
  | none => []
  | some text => if r.accepts text then [] else [⟨r.name, text⟩]

theorem mem_rejection {lookup : Lookup} {r : Reader} {entry : Rejected} :
    entry ∈ rejection lookup r ↔
      r.name = entry.name ∧ lookup.Enters entry.name entry.value ∧
        r.accepts entry.value = false := by
  obtain ⟨name, value⟩ := entry
  rw [← Lookup.present_eq_some_iff]
  cases hpresent : lookup.present r.name with
  | none =>
    simp only [rejection, hpresent, List.not_mem_nil, false_iff]
    rintro ⟨rfl, hvalue, -⟩
    cases hpresent.symm.trans hvalue
  | some text =>
    cases haccepts : r.accepts text with
    | true =>
      simp only [rejection, hpresent, haccepts, if_true, List.not_mem_nil, false_iff]
      rintro ⟨rfl, hvalue, hrejects⟩
      obtain rfl := Option.some.inj (hpresent.symm.trans hvalue)
      cases haccepts.symm.trans hrejects
    | false =>
      simp only [rejection, hpresent, haccepts, Bool.false_eq_true, if_false, List.mem_singleton,
        Rejected.mk.injEq]
      constructor
      · rintro ⟨rfl, rfl⟩
        exact ⟨rfl, hpresent, haccepts⟩
      · rintro ⟨rfl, hvalue, -⟩
        exact ⟨rfl, (Option.some.inj (hpresent.symm.trans hvalue)).symm⟩

private theorem map_name_rejection_sublist (lookup : Lookup) (r : Reader) :
    ((rejection lookup r).map (·.name)).Sublist [r.name] := by
  rw [rejection]
  split
  · exact List.nil_sublist _
  · split
    · exact List.nil_sublist _
    · exact List.Sublist.refl _

/-- The settings that cannot be read are listed setting by setting of `typed`. -/
theorem rejections_eq (lookup : Lookup) : rejections lookup = typed.flatMap (rejection lookup) := by
  have hrejected : ∀ {α : Type} (s : Setting α),
      s.rejected lookup = rejection lookup (reader s.name s.parse) := fun _ => rfl
  have hseed : reader Setting.seed.name Setting.seed.parse
      = reader "SIM_SEED" Number.unsigned? := by
    simp only [reader, Setting.seed, Option.isSome_map]
  simp only [rejections, hrejected, hseed, typed, Setting.total, Setting.baseline,
    Setting.deckSize, Setting.initialDelay, Setting.pause, Setting.timeout, Setting.ranking,
    Setting.elimination, Setting.format, Setting.rates, List.flatMap_cons, List.flatMap_nil,
    List.append_nil, List.append_assoc]

/-- The list `rejected` has the values that cannot be read, each once and in the order of their
reading. -/
structure Listing (lookup : Lookup) (rejected : List Rejected) : Prop where
  mem_iff : ∀ entry, entry ∈ rejected ↔ Misread lookup entry.name entry.value
  order : (rejected.map (·.name)).Sublist (typed.map (·.name))
  nodup : (rejected.map (·.name)).Nodup

theorem listing_rejections (lookup : Lookup) : Listing lookup (rejections lookup) := by
  have horder : ∀ readers : List Reader,
      ((readers.flatMap (rejection lookup)).map (·.name)).Sublist (readers.map (·.name)) := by
    intro readers
    induction readers with
    | nil => exact List.Sublist.refl _
    | cons r readers ih =>
      rw [List.flatMap_cons, List.map_append]
      exact (map_name_rejection_sublist lookup r).append ih
  rw [rejections_eq]
  refine ⟨fun entry => ?_, horder typed, (horder typed).nodup (by decide)⟩
  rw [List.mem_flatMap]
  simp only [mem_rejection, Misread]

/-! ### Values that are read -/

/-- What is entered under `name` is read as `value`; if nothing is, `value` is the `default`. -/
def Holds {α : Type} (lookup : Lookup) (name : String) (parse : String → Option α)
    (default value : α) : Prop :=
  (∀ text, lookup.Enters name text → parse text = some value) ∧
    ((¬∃ text, lookup.Enters name text) → value = default)

private theorem holds_of_rejected_eq_nil {α : Type} {lookup : Lookup} {s : Setting α}
    (h : s.rejected lookup = []) : Holds lookup s.name s.parse s.default (s.value lookup) := by
  simp only [Setting.rejected] at h
  simp only [Holds, Setting.value, ← Lookup.present_eq_some_iff]
  cases hpresent : lookup.present s.name with
  | none => exact ⟨fun _ h => (by cases h), fun _ => rfl⟩
  | some text =>
    simp only [hpresent] at h
    cases hparse : s.parse text with
    | none =>
      simp only [hparse] at h
      cases h
    | some value =>
      refine ⟨fun text' htext => ?_, fun hnone => absurd ⟨text, rfl⟩ hnone⟩
      obtain rfl := Option.some.inj htext
      simp only [hparse, Option.getD_some]

/-- Every typed setting of `s` has the value that is entered for it, or its default. -/
structure AllHold (lookup : Lookup) (s : Settings) : Prop where
  total : Holds lookup "SIM_TOTAL_PAYMENTS" Number.signed? 200 s.total
  baseline : Holds lookup "SIM_SUCCESS_PERCENT" Number.signed? 60 s.baseline
  deckSize : Holds lookup "SIM_POOL_SIZE" Number.signed? 100 s.deckSize
  initialDelay : Holds lookup "SIM_INITIAL_DELAY_MS" Number.unsigned? 0 s.initialDelay
  pause : Holds lookup "SIM_INTER_PAYMENT_SLEEP_MS" Number.unsigned? 0 s.pause
  seed : Holds lookup "SIM_SEED" (fun text => (Number.unsigned? text).map some) none s.seed
  timeout : Holds lookup "SIM_HTTP_TIMEOUT_MS" Number.unsigned? 10000 s.timeout
  ranking : Holds lookup "SIM_RANKING_ALGORITHM" Ranking.ofText? .successRate s.ranking
  elimination : Holds lookup "SIM_ELIMINATION_ENABLED" (fun text => truthOfWord? (Text.lower text))
    true s.elimination
  format : Holds lookup "SIM_REPORT_FORMAT" ReportFormat.ofText? .text s.format
  rates : Holds lookup "SIM_CONNECTOR_SUCCESS_RATES" connectorRates? [] s.rates

private theorem allHold_of_rejections_eq_nil {lookup : Lookup} (h : rejections lookup = []) :
    AllHold lookup (ofLookup lookup) := by
  simp only [rejections, List.append_eq_nil_iff, and_assoc] at h
  obtain ⟨htotal, hbaseline, hdeckSize, hinitialDelay, hpause, hseed, htimeout, hranking,
    helimination, hformat, hrates⟩ := h
  constructor
  case total => simpa only [ofLookup, Setting.total] using holds_of_rejected_eq_nil htotal
  case baseline => simpa only [ofLookup, Setting.baseline] using holds_of_rejected_eq_nil hbaseline
  case deckSize => exact holds_of_rejected_eq_nil hdeckSize
  case initialDelay =>
    simpa only [ofLookup, Setting.initialDelay] using holds_of_rejected_eq_nil hinitialDelay
  case pause => simpa only [ofLookup, Setting.pause] using holds_of_rejected_eq_nil hpause
  case seed => simpa only [ofLookup, Setting.seed] using holds_of_rejected_eq_nil hseed
  case timeout => simpa only [ofLookup, Setting.timeout] using holds_of_rejected_eq_nil htimeout
  case ranking => simpa only [ofLookup, Setting.ranking] using holds_of_rejected_eq_nil hranking
  case elimination =>
    simpa only [ofLookup, Setting.elimination] using holds_of_rejected_eq_nil helimination
  case format => simpa only [ofLookup, Setting.format] using holds_of_rejected_eq_nil hformat
  case rates => simpa only [ofLookup, Setting.rates] using holds_of_rejected_eq_nil hrates

/-! ### Values that change -/

/-- The settings `s` and `s'` agree in all fields of other names than `name`, and list the same
values under other names. -/
structure SameApart (name : String) (s s' : Settings) : Prop where
  total : "SIM_TOTAL_PAYMENTS" ≠ name → s.total = s'.total
  baseline : "SIM_SUCCESS_PERCENT" ≠ name → s.baseline = s'.baseline
  deckSize : "SIM_POOL_SIZE" ≠ name → s.deckSize = s'.deckSize
  initialDelay : "SIM_INITIAL_DELAY_MS" ≠ name → s.initialDelay = s'.initialDelay
  pause : "SIM_INTER_PAYMENT_SLEEP_MS" ≠ name → s.pause = s'.pause
  seed : "SIM_SEED" ≠ name → s.seed = s'.seed
  timeout : "SIM_HTTP_TIMEOUT_MS" ≠ name → s.timeout = s'.timeout
  ranking : "SIM_RANKING_ALGORITHM" ≠ name → s.ranking = s'.ranking
  elimination : "SIM_ELIMINATION_ENABLED" ≠ name → s.elimination = s'.elimination
  format : "SIM_REPORT_FORMAT" ≠ name → s.format = s'.format
  decisionUrl : "DECISION_ENGINE_URL" ≠ name → s.decisionUrl = s'.decisionUrl
  decisionMerchant : "DECISION_MERCHANT_ID" ≠ name → s.decisionMerchant = s'.decisionMerchant
  paymentsUrl : "PAYMENTS_BASE_URL" ≠ name → s.paymentsUrl = s'.paymentsUrl
  paymentsKey : "PAYMENTS_API_KEY" ≠ name → s.paymentsKey = s'.paymentsKey
  paymentsProfile : "PAYMENTS_PROFILE_ID" ≠ name → s.paymentsProfile = s'.paymentsProfile
  paymentsMerchant : "PAYMENTS_MERCHANT_ID" ≠ name → s.paymentsMerchant = s'.paymentsMerchant
  connectors : "SIM_CONNECTORS" ≠ name → s.connectors = s'.connectors
  rates : "SIM_CONNECTOR_SUCCESS_RATES" ≠ name → s.rates = s'.rates
  lookupUrl : "CONNECTOR_LOOKUP_URL" ≠ name → s.lookupUrl = s'.lookupUrl
  summarizerUrl : "SUMMARIZER_URL" ≠ name → s.summarizerUrl = s'.summarizerUrl
  rejected : ∀ entry, entry.name ≠ name → (entry ∈ s.rejected ↔ entry ∈ s'.rejected)

theorem present_congr {lookup lookup' : Lookup} {name : String}
    (h : lookup name = lookup' name) : lookup.present name = lookup'.present name := by
  rw [Lookup.present, Lookup.present, h]

theorem value_congr {α : Type} {lookup lookup' : Lookup} {s : Setting α}
    (h : lookup.present s.name = lookup'.present s.name) : s.value lookup = s.value lookup' := by
  rw [Setting.value, Setting.value, h]

private theorem sameApart_of_eqOn {lookup lookup' : Lookup} {name : String}
    (h : ∀ other, other ≠ name → lookup other = lookup' other) :
    SameApart name (ofLookup lookup) (ofLookup lookup') := by
  have hvalue : ∀ {α : Type} (s : Setting α), s.name ≠ name → s.value lookup = s.value lookup' :=
    fun s hne => value_congr (present_congr (h s.name hne))
  exact
    { total := hvalue Setting.total
      baseline := hvalue Setting.baseline
      deckSize := hvalue Setting.deckSize
      initialDelay := hvalue Setting.initialDelay
      pause := hvalue Setting.pause
      seed := hvalue Setting.seed
      timeout := hvalue Setting.timeout
      ranking := hvalue Setting.ranking
      elimination := hvalue Setting.elimination
      format := hvalue Setting.format
      decisionUrl := fun hne => congrArg (Option.getD · _) (h _ hne)
      decisionMerchant := fun hne => congrArg (Option.getD · _) (h _ hne)
      paymentsUrl := fun hne => congrArg (Option.getD · _) (h _ hne)
      paymentsKey := fun hne => congrArg (Option.getD · _) (h _ hne)
      paymentsProfile := fun hne => congrArg (Option.getD · _) (h _ hne)
      paymentsMerchant := fun hne => congrArg (Option.getD · _) (h _ hne)
      connectors := fun hne =>
        congrArg (fun text : Option String => connectorPairs (text.getD "")) (h _ hne)
      rates := hvalue Setting.rates
      lookupUrl := fun hne => present_congr (h _ hne)
      summarizerUrl := fun hne => present_congr (h _ hne)
      rejected := fun entry hne => by
        have henters : lookup.Enters entry.name entry.value
            ↔ lookup'.Enters entry.name entry.value := by
          rw [Lookup.Enters, Lookup.Enters, h _ hne]
        change entry ∈ rejections lookup ↔ entry ∈ rejections lookup'
        rw [(listing_rejections lookup).mem_iff, (listing_rejections lookup').mem_iff, Misread,
          Misread, henters] }

/-! ### The check -/

theorem validate_eq_unparsable_iff {s : Settings} {rejected : List Rejected} :
    s.validate = .error (.unparsable rejected) ↔ s.rejected ≠ [] ∧ s.rejected = rejected := by
  rw [validate_eq_error_iff]
  by_cases hsound : s.SoundBeforeRates
  · refine iff_of_false (fun h => ?_) fun h => h.1 hsound.rejected
    rw [hsound.fault?_eq] at h
    cases hrates : s.rates.find? fun rate => !isPercent rate.2 with
    | some rate =>
      rw [hrates] at h
      cases h
    | none =>
      rw [hrates, Option.elim_none] at h
      split at h <;> cases h
  rcases fault?_of_not_soundBeforeRates hsound with ⟨hrejected, h⟩ | ⟨hrejected, h⟩
  · rw [h, Option.some.injEq, ConfigurationFault.unparsable.injEq]
    exact (and_iff_right hrejected).symm
  · refine iff_of_false (fun h' => ?_) fun h' => h'.1 hrejected
    rcases h with h | h | h <;> cases h.symm.trans h'

theorem rejections_eq_nil_iff {lookup : Lookup} :
    rejections lookup = [] ↔ ¬∃ name text, Misread lookup name text := by
  rw [List.eq_nil_iff_forall_not_mem]
  constructor
  · rintro h ⟨name, text, hmisread⟩
    exact h ⟨name, text⟩ ((listing_rejections lookup).mem_iff _ |>.mpr hmisread)
  · intro h entry hentry
    exact h ⟨_, _, (listing_rejections lookup).mem_iff entry |>.mp hentry⟩

/-- The check accepts settings exactly if none of their values is `Misread` and all of them are in
range. -/
theorem validate_ofLookup_eq_ok_iff {lookup : Lookup} :
    (ofLookup lookup).validate = .ok () ↔
      (¬∃ name text, Misread lookup name text) ∧ 0 < (ofLookup lookup).total ∧
        (0 ≤ (ofLookup lookup).baseline ∧ (ofLookup lookup).baseline ≤ 100) ∧
        (1 ≤ (ofLookup lookup).deckSize ∧ (ofLookup lookup).deckSize ≤ 1000000) ∧
        (∀ rate ∈ (ofLookup lookup).rates, 0 ≤ rate.2 ∧ rate.2 ≤ 100) ∧
        0 < (ofLookup lookup).timeout := by
  rw [validate_eq_ok_iff, ← rejections_eq_nil_iff]
  constructor
  · intro h
    exact ⟨h.rejected, h.total, isPercent_iff.mp h.baseline, h.deckSize,
      fun rate hrate => isPercent_iff.mp (h.rates rate hrate), Nat.pos_of_ne_zero h.timeout⟩
  · rintro ⟨hrejected, htotal, hbaseline, hdeckSize, hrates, htimeout⟩
    exact
      { rejected := hrejected
        total := htotal
        baseline := isPercent_iff.mpr hbaseline
        deckSize := hdeckSize
        rates := fun rate hrate => isPercent_iff.mpr (hrates rate hrate)
        timeout := htimeout.ne' }

/-- **Reading settings.** No value that cannot be read is passed over (`Misread`). The check fails
for the list of these values, if there are any; it succeeds if there are none and the values are in
range, and then every typed setting has the value that is entered for it. A change of one value
changes no setting of another name. -/
theorem validate_ofLookup (lookup : Lookup) :
    ((∃ rejected, (ofLookup lookup).validate = .error (.unparsable rejected)) ↔
        ∃ name text, Misread lookup name text) ∧
      (∀ rejected, (ofLookup lookup).validate = .error (.unparsable rejected) →
        Listing lookup rejected ∧ (ConfigurationFault.unparsable rejected).text =
          "unparsable values: " ++
            ", ".intercalate (rejected.map fun r => r.name ++ "=" ++ Text.quote r.value)) ∧
      ((ofLookup lookup).validate = .ok () ↔
        (¬∃ name text, Misread lookup name text) ∧ 0 < (ofLookup lookup).total ∧
          (0 ≤ (ofLookup lookup).baseline ∧ (ofLookup lookup).baseline ≤ 100) ∧
          (1 ≤ (ofLookup lookup).deckSize ∧ (ofLookup lookup).deckSize ≤ 1000000) ∧
          (∀ rate ∈ (ofLookup lookup).rates, 0 ≤ rate.2 ∧ rate.2 ≤ 100) ∧
          0 < (ofLookup lookup).timeout) ∧
      ((ofLookup lookup).validate = .ok () → AllHold lookup (ofLookup lookup)) ∧
      ∀ name lookup', (∀ other, other ≠ name → lookup other = lookup' other) →
        SameApart name (ofLookup lookup) (ofLookup lookup') := by
  refine ⟨⟨?_, fun hmisread => ?_⟩, fun rejected h => ?_, validate_ofLookup_eq_ok_iff,
    fun h => ?_, fun name lookup' h => sameApart_of_eqOn h⟩
  · rintro ⟨rejected, h⟩
    by_contra hnone
    exact (validate_eq_unparsable_iff.mp h).1 (rejections_eq_nil_iff.mpr hnone)
  · refine ⟨_, validate_eq_unparsable_iff.mpr ⟨fun hnil => ?_, rfl⟩⟩
    exact rejections_eq_nil_iff.mp hnil hmisread
  · obtain ⟨-, rfl⟩ := validate_eq_unparsable_iff.mp h
    exact ⟨listing_rejections lookup, rfl⟩
  · rw [validate_eq_ok_iff] at h
    exact allHold_of_rejections_eq_nil h.rejected

end Settings

end RouterTrial
