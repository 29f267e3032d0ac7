import RouterTrial.Proofs.Settings.Reading
import RouterTrial.Proofs.Text.Split

/-!
# Blank values

A value of white space counts as none for the typed settings, for the addresses that may be missing
and for the list of accounts. The six other texts are taken as they stand, so that a blank value is
kept where a missing one gives the default. Two ways of leaving values out are therefore the same
to the check of the settings (`validate` in `ofLookup_eq_iff_of_alike`), and they give the same
settings exactly if they agree on these six texts.
-/

namespace RouterTrial

/-- No value stands under `name`, or a blank one. -/
def Lookup.Missing (lookup : Lookup) (name : String) : Prop :=
  ∀ raw, lookup name = some raw → ∀ c ∈ raw.toList, Text.isBlank c = true

/-- The same values stand under the names of the settings, apart from those that are missing on both
sides (`Missing`). -/
def Lookup.Alike (lookup lookup' : Lookup) : Prop :=
  ∀ name ∈ Settings.names,
    lookup name = lookup' name ∨ lookup.Missing name ∧ lookup'.Missing name

/-! ### Reading blank values -/

private theorem Lookup.Missing.present_eq_none {lookup : Lookup} {name : String}
    (h : lookup.Missing name) : lookup.present name = none := by
  rw [Option.eq_none_iff_forall_not_mem]
  intro text htext
  obtain ⟨raw, hraw, ⟨c, hc, hblank⟩, -⟩ := present_eq_some_iff.mp htext
  cases (h raw hraw c hc).symm.trans hblank

private theorem Lookup.Alike.present_eq {lookup lookup' : Lookup} (h : lookup.Alike lookup')
    (name : String) (hname : name ∈ Settings.names) :
    lookup.present name = lookup'.present name := by
  rcases h name hname with heq | ⟨hmissing, hmissing'⟩
  · exact Settings.present_congr heq
  · rw [hmissing.present_eq_none, hmissing'.present_eq_none]

namespace Settings

/-- A `text` that is blank lists no account. -/
private theorem connectorPairs_of_blank {text : String}
    (h : ∀ c ∈ text.toList, Text.isBlank c = true) : connectorPairs text = [] := by
  have hcomma : ',' ∉ text.toList := fun hmem => absurd (h _ hmem) (by decide)
  have hcut : Text.cut '=' text.toList = none :=
    Text.cut_eq_none_iff.mpr fun hmem => absurd (h _ hmem) (by decide)
  rw [connectorPairs, Text.splitOn_of_notMem hcomma, List.filterMap_cons_none, List.filterMap_nil]
  rw [connectorPair?, hcut]
  rfl

private theorem connectorPairs_of_missing {lookup : Lookup} {name : String}
    (h : lookup.Missing name) : connectorPairs ((lookup name).getD "") = [] := by
  cases hname : lookup name with
  | none => exact connectorPairs_of_blank nofun
  | some raw => exact connectorPairs_of_blank (h raw hname)

/-- A `default` that is not blank tells a missing value from a blank one. -/
private theorem getD_eq_iff {lookup lookup' : Lookup} {name default : String}
    (h : lookup name = lookup' name ∨ lookup.Missing name ∧ lookup'.Missing name)
    (hdefault : ∃ c ∈ default.toList, Text.isBlank c = false) :
    (lookup name).getD default = (lookup' name).getD default ↔ lookup name = lookup' name := by
  refine ⟨fun heq => ?_, fun heq => congrArg (Option.getD · default) heq⟩
  obtain ⟨c, hc, hblank⟩ := hdefault
  rcases h with h | ⟨hmissing, hmissing'⟩
  · exact h
  cases hvalue : lookup name with
  | none =>
    cases hvalue' : lookup' name with
    | none => rfl
    | some raw =>
      rw [hvalue, hvalue'] at heq
      obtain rfl : default = raw := heq
      cases (hmissing' default hvalue' c hc).symm.trans hblank
  | some raw =>
    cases hvalue' : lookup' name with
    | none =>
      rw [hvalue, hvalue'] at heq
      obtain rfl : raw = default := heq
      cases (hmissing raw hvalue c hc).symm.trans hblank
    | some raw' =>
      rw [hvalue, hvalue'] at heq
      exact congrArg some heq

/-! ### Settings alike -/

section Alike

variable {lookup lookup' : Lookup} (h : lookup.Alike lookup')

include h

private theorem rejections_eq_of_alike : rejections lookup = rejections lookup' := by
  have hpresent := h.present_eq
  simp only [names, List.mem_cons, List.not_mem_nil, or_false, forall_eq_or_imp, forall_eq]
    at hpresent
  simp only [rejections, Setting.rejected, hpresent]

private theorem value_eq_of_alike {α : Type} {s : Setting α} (hname : s.name ∈ names) :
    s.value lookup = s.value lookup' :=
  value_congr (h.present_eq s.name hname)

private theorem connectorPairs_eq_of_alike {name : String} (hname : name ∈ names) :
    connectorPairs ((lookup name).getD "") = connectorPairs ((lookup' name).getD "") := by
  rcases h name hname with heq | ⟨hmissing, hmissing'⟩
  · rw [heq]
  · rw [connectorPairs_of_missing hmissing, connectorPairs_of_missing hmissing']

/-- The check cannot tell a blank value from a missing one: it comes to the same for lookups that
are `Alike`. -/
theorem validate_eq_of_alike : (ofLookup lookup).validate = (ofLookup lookup').validate := by
  have hrejected : (ofLookup lookup).rejected = (ofLookup lookup').rejected :=
    rejections_eq_of_alike h
  have htotal : (ofLookup lookup).total = (ofLookup lookup').total :=
    value_eq_of_alike h (s := Setting.total) (by decide)
  have hbaseline : (ofLookup lookup).baseline = (ofLookup lookup').baseline :=
    value_eq_of_alike h (s := Setting.baseline) (by decide)
  have hdeckSize : (ofLookup lookup).deckSize = (ofLookup lookup').deckSize :=
    value_eq_of_alike h (s := Setting.deckSize) (by decide)
  have hrates : (ofLookup lookup).rates = (ofLookup lookup').rates :=
    value_eq_of_alike h (s := Setting.rates) (by decide)
  have htimeout : (ofLookup lookup).timeout = (ofLookup lookup').timeout :=
    value_eq_of_alike h (s := Setting.timeout) (by decide)
  rw [validate, validate, fault?, fault?, hrejected, htotal, hbaseline, hdeckSize, hrates, htimeout]

/-- Settings that differ at most in missing values are equal if the six texts that are taken as they
stand are. -/
theorem ofLookup_eq_iff_texts : ofLookup lookup = ofLookup lookup' ↔
    (ofLookup lookup).decisionUrl = (ofLookup lookup').decisionUrl ∧
      (ofLookup lookup).decisionMerchant = (ofLookup lookup').decisionMerchant ∧
      (ofLookup lookup).paymentsUrl = (ofLookup lookup').paymentsUrl ∧
      (ofLookup lookup).paymentsKey = (ofLookup lookup').paymentsKey ∧
      (ofLookup lookup).paymentsProfile = (ofLookup lookup').paymentsProfile ∧
      (ofLookup lookup).paymentsMerchant = (ofLookup lookup').paymentsMerchant := by
  have hvalue : ∀ {α : Type} (s : Setting α), s.name ∈ names → s.value lookup = s.value lookup' :=
    fun s hname => value_eq_of_alike h hname
  have hconnectors := connectorPairs_eq_of_alike h (show "SIM_CONNECTORS" ∈ names by decide)
  simp only [ofLookup, Settings.mk.injEq, rejections_eq_of_alike h, hconnectors,
    hvalue Setting.total (by decide), hvalue Setting.baseline (by decide),
    hvalue Setting.deckSize (by decide), hvalue Setting.initialDelay (by decide),
    hvalue Setting.pause (by decide), hvalue Setting.seed (by decide),
    hvalue Setting.timeout (by decide), hvalue Setting.ranking (by decide),
    hvalue Setting.elimination (by decide), hvalue Setting.format (by decide),
    hvalue Setting.rates (by decide), h.present_eq "CONNECTOR_LOOKUP_URL" (by decide),
    h.present_eq "SUMMARIZER_URL" (by decide), and_true, true_and]

end Alike

/-- **Blank values.** To the check of the settings a blank value is a missing one (`Lookup.Alike`).
The settings themselves are the same exactly if the values of the texts with a default are, and
those of the texts without one but for a missing one being empty. -/
theorem ofLookup_eq_iff_of_alike {lookup lookup' : Lookup} (h : lookup.Alike lookup') :
    (ofLookup lookup).validate = (ofLookup lookup').validate ∧
      (ofLookup lookup = ofLookup lookup' ↔
        (∀ name ∈ ["DECISION_ENGINE_URL", "DECISION_MERCHANT_ID", "PAYMENTS_BASE_URL"],
          lookup name = lookup' name) ∧
        ∀ name ∈ ["PAYMENTS_API_KEY", "PAYMENTS_PROFILE_ID", "PAYMENTS_MERCHANT_ID"],
          (lookup name).getD "" = (lookup' name).getD "") := by
  have hurl := @getD_eq_iff lookup lookup' "DECISION_ENGINE_URL" "http://localhost:8080"
    (h _ (by decide)) ⟨'h', by decide, by decide⟩
  have hmerchant := @getD_eq_iff lookup lookup' "DECISION_MERCHANT_ID" "hyperswitchTest"
    (h _ (by decide)) ⟨'h', by decide, by decide⟩
  have hpayments := @getD_eq_iff lookup lookup' "PAYMENTS_BASE_URL" "https://sandbox.hyperswitch.io"
    (h _ (by decide)) ⟨'h', by decide, by decide⟩
  refine ⟨validate_eq_of_alike h, ?_⟩
  rw [ofLookup_eq_iff_texts h]
  simp only [ofLookup, hurl, hmerchant, hpayments, List.forall_mem_cons, List.not_mem_nil,
    IsEmpty.forall_iff, implies_true, and_true, and_assoc]

/-- An empty lookup, and one that has the blank value `raw` under `key`. -/
private theorem alike_of_blank (key : String) {raw : String}
    (hraw : ∀ c ∈ raw.toList, Text.isBlank c = true) :
    Lookup.Alike (fun _ => none) fun name => if name = key then some raw else none := by
  intro name _
  by_cases hname : name = key
  · right
    refine ⟨nofun, fun raw' hraw' => ?_⟩
    obtain rfl := Option.some.inj ((if_pos hname).symm.trans hraw')
    exact hraw
  · exact .inl (if_neg hname).symm

/-- A blank seed is no seed, to the check and to the settings. -/
theorem ofLookup_eq_of_blank_seed :
    let lookup : Lookup := fun _ => none
    let lookup' : Lookup := fun name => if name = "SIM_SEED" then some " " else none
    lookup.Alike lookup' ∧ (ofLookup lookup).validate = (ofLookup lookup').validate ∧
      ofLookup lookup = ofLookup lookup' := by
  intro lookup lookup'
  have halike : lookup.Alike lookup' :=
    alike_of_blank "SIM_SEED" (List.forall_mem_singleton.mpr rfl)
  obtain ⟨hvalidate, hsettings⟩ := ofLookup_eq_iff_of_alike halike
  exact ⟨halike, hvalidate, hsettings.mpr ⟨by decide, by decide⟩⟩

/-- An address that is blank is kept, where a missing one gives the default. -/
theorem not_ofLookup_eq_of_blank_url :
    ¬∀ lookup lookup' : Lookup, lookup.Alike lookup' → ofLookup lookup = ofLookup lookup' := by
  intro h
  have heq := h (fun _ => none) (fun name => if name = "DECISION_ENGINE_URL" then some "" else none)
    (alike_of_blank "DECISION_ENGINE_URL" nofun)
  have hurl : "http://localhost:8080" = "" := congrArg Settings.decisionUrl heq
  exact absurd hurl (by decide)

end Settings

end RouterTrial
