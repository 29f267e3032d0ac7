import Mathlib.Data.List.Nodup
import RouterTrial.Proofs.Elementwise
import RouterTrial.Proofs.Number.Integer
import RouterTrial.Proofs.Settings.Pairs
import RouterTrial.Proofs.Settings.Reading

/-!
# Lists of rates

What a list of rates is read as. The list is all or nothing: it is accepted exactly if every entry
that is not blank writes a rate (`WritesRate`), and then these are the rates, in the order of their
entries. A single entry that writes none leaves no rates at all, and the check fails for the whole
value. Rates have a written form (`writeRates`), and they are read from it again.

The check of rates that are read names the first one that is no percentage, if nothing is wrong
with the settings that it looks at before (`SoundBeforeRates`).
-/

namespace RouterTrial.Settings

/-! ### Entries -/

/-- The `entry` is a name and an integer of 64 bits, white space around them apart, with the first
equals sign of the entry between them. -/
def WritesRate (entry : List Char) (rate : String × Int) : Prop :=
  ∃ before behind, entry = before ++ '=' :: behind ∧ '=' ∉ before ∧ ¬Text.Blank before ∧
    rate.1 = String.ofList (Text.trimChars before) ∧
    Number.WritesInteger (Text.trimChars behind) rate.2 ∧ Number.FitsWord rate.2

private theorem connectorRate?_eq_some_iff {entry : List Char} {rate : String × Int} :
    connectorRate? entry = some rate ↔ WritesRate entry rate := by
  rw [connectorRate?, Option.bind_eq_some_iff, WritesRate]
  simp only [Prod.exists, Text.cut_eq_some_iff, ← Text.trimChars_eq_nil_iff]
  refine exists_congr fun before => exists_congr fun behind => ?_
  rw [and_assoc, ← List.isEmpty_iff]
  refine and_congr_right fun _ => and_congr_right fun _ => ?_
  obtain ⟨name, n⟩ := rate
  cases (Text.trimChars before).isEmpty with
  | true => exact iff_of_false nofun fun h => h.1 rfl
  | false =>
    simp only [Bool.false_eq_true, if_false, not_false_eq_true, true_and, Option.map_eq_some_iff,
      Number.signed?_eq_some_iff, String.toList_ofList, Prod.mk.injEq]
    constructor
    · rintro ⟨n, hn, rfl, rfl⟩
      exact ⟨rfl, hn⟩
    · rintro ⟨rfl, hn⟩
      exact ⟨n, hn, rfl, rfl⟩

/-- White space around an `entry` does not matter. -/
private theorem connectorRate?_trimChars (entry : List Char) :
    connectorRate? (Text.trimChars entry) = connectorRate? entry := by
  -- an entry is read from its parts, each of them trimmed
  have hparts : ∀ entry, connectorRate? entry =
      ((Text.cut '=' entry).map (Prod.map Text.trimChars Text.trimChars)).bind fun parts =>
        if parts.1.isEmpty then none
        else (Number.signed? (String.ofList parts.2)).map (String.ofList parts.1, ·) := by
    intro entry
    rw [connectorRate?, Option.bind_map]
    rfl
  rw [hparts, hparts, Text.map_trimChars_cut (by decide)]

/-- The entries of the list `text` between its commas, without those that are blank. -/
def entries (text : String) : List (List Char) :=
  (Text.splitOn ',' text.toList).filter fun entry => ¬Text.Blank entry

private theorem filledEntries_eq (text : String) :
    filledEntries text = (entries text).map Text.trimChars := by
  have hfilled : ∀ entry, (!(Text.trimChars entry).isEmpty) = decide (¬Text.Blank entry) := by
    intro entry
    rw [Bool.eq_iff_iff, decide_eq_true_iff, Bool.not_eq_true', List.isEmpty_eq_false_iff, ne_eq,
      Text.trimChars_eq_nil_iff]
  rw [filledEntries, List.filter_map, entries]
  exact congrArg _ (List.filter_congr fun entry _ => hfilled entry)

theorem connectorRates?_eq_some_iff {text : String} {rates : List (String × Int)} :
    connectorRates? text = some rates ↔ List.Forall₂ WritesRate (entries text) rates := by
  rw [connectorRates?, mapM_eq_some_iff, filledEntries_eq, List.forall₂_map_left_iff]
  simp only [connectorRate?_trimChars, connectorRate?_eq_some_iff]

/-- There are rates exactly if none of the `entries` spoils them. -/
theorem connectorRates?_eq_none_iff {text : String} :
    connectorRates? text = none ↔ ∃ entry ∈ entries text, ¬∃ rate, WritesRate entry rate := by
  rw [Option.eq_none_iff_forall_ne_some]
  simp only [ne_eq, connectorRates?_eq_some_iff]
  rw [← not_exists, exists_forall₂_iff]
  simp only [not_forall, exists_prop]

theorem connectorRates?_trim (text : String) :
    connectorRates? (Text.trim text) = connectorRates? text := by
  rw [connectorRates?, connectorRates?, filledEntries, filledEntries, Text.trim_toList,
    Text.map_trimChars_splitOn (by decide)]

theorem connectorRates?_of_blank {text : String} (h : Text.Blank text.toList) :
    connectorRates? text = some [] := by
  have htrim : Text.trim text = "" := by
    rw [← String.toList_eq_nil_iff, Text.trim_toList, Text.trimChars_eq_nil_iff]
    exact h
  rw [← connectorRates?_trim, htrim]
  rfl

/-! ### Written forms -/

/-- The written form of `rates`. -/
def writeRates (rates : List (String × Int)) : String :=
  writePairs (rates.map fun rate => (rate.1, toString rate.2))

section Written

variable {rates : List (String × Int)} (h : ∀ rate ∈ rates, Text.Clean [',', '='] rate.1)
include h

/-- The entries of a written list are the written `rates`. -/
private theorem entries_writeRates :
    entries (writeRates rates) = rates.map fun rate => pairChars (rate.1, toString rate.2) := by
  by_cases hne : rates = []
  · subst hne
    rfl
  · have hcomma : ∀ p ∈ rates.map fun rate => (rate.1, toString rate.2),
        ',' ∉ p.1.toList ∧ ',' ∉ p.2.toList := by
      intro p hp
      obtain ⟨rate, hrate, rfl⟩ := List.mem_map.mp hp
      exact ⟨(h rate hrate).free ',' List.mem_cons_self,
        (Number.writesInteger_toString rate.2).notMem rfl (by decide) (by decide)⟩
    rw [entries, writeRates, splitOn_writePairs (mt List.map_eq_nil_iff.mp hne) hcomma,
      List.map_map]
    refine List.filter_eq_self.mpr ?_
    -- no written rate is blank: it has an equals sign
    intro entry hentry
    obtain ⟨rate, -, rfl⟩ := List.mem_map.mp hentry
    rw [decide_eq_true_iff]
    intro hblank
    exact hblank.notMem (c := '=') rfl (List.mem_append_right _ List.mem_cons_self)

/-- The `rates` are read from their written form. -/
theorem connectorRates?_writeRates (hword : ∀ rate ∈ rates, Number.FitsWord rate.2) :
    connectorRates? (writeRates rates) = some rates := by
  rw [connectorRates?_eq_some_iff, entries_writeRates h, List.forall₂_map_left_iff,
    List.forall₂_same]
  intro rate hrate
  have hname := h rate hrate
  have hnumber := Number.writesInteger_toString rate.2
  refine ⟨rate.1.toList, (toString rate.2).toList, rfl, hname.free '=' (by decide), ?_, ?_, ?_,
    hword rate hrate⟩
  · rw [← Text.trimChars_eq_nil_iff, ← Text.trim_toList, hname.trimmed, String.toList_eq_nil_iff]
    exact hname.ne_empty
  · rw [← Text.trim_toList, hname.trimmed, String.ofList_toList]
  · rw [Text.trimChars_eq_self fun c hc => hnumber.isBlank_eq_false hc]
    exact hnumber

end Written

/-! ### Settings -/

private theorem misread_rates_iff {lookup : Lookup} {text : String} :
    Misread lookup "SIM_CONNECTOR_SUCCESS_RATES" text ↔
      lookup.Enters "SIM_CONNECTOR_SUCCESS_RATES" text ∧ connectorRates? text = none := by
  have hmem : reader "SIM_CONNECTOR_SUCCESS_RATES" connectorRates? ∈ typed :=
    List.mem_of_getElem? (show typed[10]? = some _ from rfl)
  rw [← Option.isNone_iff_eq_none, ← Option.isSome_eq_false_iff]
  constructor
  · -- the typed settings have different names, so this is the one for rates
    rintro ⟨r, hr, hname, henters, haccepts⟩
    have hnodup : (typed.map (·.name)).Nodup := by decide
    obtain rfl := List.inj_on_of_nodup_map hnodup hr hmem hname
    exact ⟨henters, haccepts⟩
  · rintro ⟨henters, hnone⟩
    exact ⟨_, hmem, rfl, henters, hnone⟩

section Loaded

variable {lookup : Lookup} {raw : String} (h : lookup "SIM_CONNECTOR_SUCCESS_RATES" = some raw)
include h

private theorem enters_rates_iff {text : String} :
    lookup.Enters "SIM_CONNECTOR_SUCCESS_RATES" text ↔
      ¬Text.Blank raw.toList ∧ text = Text.trim raw := by
  rw [Text.not_blank_iff]
  constructor
  · rintro ⟨raw', hraw', hfilled⟩
    obtain rfl := Option.some.inj (h.symm.trans hraw')
    exact hfilled
  · exact fun hfilled => ⟨raw, h, hfilled⟩

private theorem rates_ofLookup : (ofLookup lookup).rates = (connectorRates? raw).getD [] := by
  have hvalue : (ofLookup lookup).rates = Setting.rates.value lookup := rfl
  rw [hvalue, Setting.value]
  cases hpresent : lookup.present Setting.rates.name with
  | none =>
    -- a blank value is no value, and it has no entries either
    have hblank : Text.Blank raw.toList := by
      by_contra hfilled
      have hsome := Lookup.present_eq_some_iff.mpr ((enters_rates_iff h).mpr ⟨hfilled, rfl⟩)
      cases hpresent.symm.trans hsome
    rw [connectorRates?_of_blank hblank]
    rfl
  | some text =>
    obtain ⟨-, rfl⟩ := (enters_rates_iff h).mp (Lookup.present_eq_some_iff.mp hpresent)
    have hparse : Setting.rates.parse = connectorRates? := rfl
    simp only [hparse, connectorRates?_trim]
    rfl

/-- A value that is no list of rates is listed as it stands, but for the white space around it. Here
`text` is what is listed. -/
private theorem mem_rejected_iff {text : String} :
    ⟨"SIM_CONNECTOR_SUCCESS_RATES", text⟩ ∈ (ofLookup lookup).rejected ↔
      text = Text.trim raw ∧ connectorRates? raw = none := by
  refine ((listing_rejections lookup).mem_iff _).trans (misread_rates_iff.trans ?_)
  rw [enters_rates_iff h]
  constructor
  · rintro ⟨⟨-, rfl⟩, hnone⟩
    exact ⟨rfl, connectorRates?_trim raw ▸ hnone⟩
  · rintro ⟨rfl, hnone⟩
    rw [connectorRates?_trim]
    refine ⟨⟨fun hblank => ?_, rfl⟩, hnone⟩
    cases hnone.symm.trans (connectorRates?_of_blank hblank)

end Loaded

/-! ### The check -/

/-- The rate `n` of the `connector` is the first one in the list that is no percentage. -/
def FirstOff (rates : List (String × Int)) (connector : String) (n : Int) : Prop :=
  ∃ before behind, rates = before ++ (connector, n) :: behind ∧
    (∀ rate ∈ before, 0 ≤ rate.2 ∧ rate.2 ≤ 100) ∧ ¬(0 ≤ n ∧ n ≤ 100)

private theorem find?_rates_eq_some_iff {rates : List (String × Int)} {connector : String}
    {n : Int} :
    (rates.find? fun rate => !isPercent rate.2) = some (connector, n) ↔
      FirstOff rates connector n := by
  rw [List.find?_eq_some_iff_append, FirstOff, Bool.not_eq_true', ← Bool.not_eq_true, isPercent_iff]
  simp only [Bool.not_not, isPercent_iff]
  constructor
  · rintro ⟨hoff, before, behind, hrates, hbefore⟩
    exact ⟨before, behind, hrates, hbefore, hoff⟩
  · rintro ⟨before, behind, hrates, hbefore, hoff⟩
    exact ⟨hoff, before, behind, hrates, hbefore⟩

private theorem exists_firstOff_iff {rates : List (String × Int)} :
    (∃ connector n, FirstOff rates connector n) ↔ ¬∀ rate ∈ rates, 0 ≤ rate.2 ∧ rate.2 ≤ 100 := by
  have hall : (rates.find? fun rate => !isPercent rate.2) = none ↔
      ∀ rate ∈ rates, 0 ≤ rate.2 ∧ rate.2 ≤ 100 := by
    simp only [List.find?_eq_none, Bool.not_eq_true', Bool.not_eq_false, isPercent_iff]
  rw [← hall, ← ne_eq, Option.ne_none_iff_exists', Prod.exists]
  simp only [find?_rates_eq_some_iff]

private theorem validate_eq_connectorRate_iff {s : Settings} {connector : String} {n : Int} :
    s.validate = .error (.connectorRate connector n) ↔
      s.SoundBeforeRates ∧ FirstOff s.rates connector n := by
  rw [validate_eq_error_iff, ← find?_rates_eq_some_iff]
  by_cases hsound : s.SoundBeforeRates
  · rw [hsound.fault?_eq, and_iff_right hsound]
    cases s.rates.find? fun rate => !isPercent rate.2 with
    | some rate =>
      rw [Option.elim_some, Option.some.injEq, ConfigurationFault.connectorRate.injEq,
        Option.some.injEq, Prod.ext_iff]
    | none =>
      refine iff_of_false (fun h => ?_) fun h => by cases h
      rw [Option.elim_none] at h
      split at h <;> cases h
  · refine iff_of_false (fun h => ?_) fun h => hsound h.1
    rcases fault?_of_not_soundBeforeRates hsound with ⟨-, h'⟩ | ⟨-, h' | h' | h'⟩ <;>
      cases h.symm.trans h'

/-- The check names a rate exactly if nothing is wrong before and it is the first one that is no
percentage (`FirstOff`). -/
structure ChecksRates (s : Settings) : Prop where
  names_iff : ∀ connector n, s.validate = .error (.connectorRate connector n) ↔
    s.SoundBeforeRates ∧ FirstOff s.rates connector n
  passes_iff : s.SoundBeforeRates →
    ((∀ connector n, s.validate ≠ .error (.connectorRate connector n)) ↔
      ∀ rate ∈ s.rates, 0 ≤ rate.2 ∧ rate.2 ≤ 100)
  ok_iff : s.SoundBeforeRates → 0 < s.timeout →
    (s.validate = .ok () ↔ ∀ rate ∈ s.rates, 0 ≤ rate.2 ∧ rate.2 ≤ 100)
  text : ∀ connector n, (ConfigurationFault.connectorRate connector n).text =
    "SIM_CONNECTOR_SUCCESS_RATES for " ++ connector ++ " must be within [0,100], got " ++ toString n

theorem checksRates (s : Settings) : ChecksRates s where
  names_iff connector n := validate_eq_connectorRate_iff
  passes_iff hsound := by
    rw [← not_iff_not, ← exists_firstOff_iff]
    simp only [ne_eq, not_forall, not_not, validate_eq_connectorRate_iff, hsound, true_and]
  ok_iff hsound htimeout := by
    rw [validate_eq_ok_iff]
    constructor
    · intro h rate hrate
      exact isPercent_iff.mp (h.rates rate hrate)
    · intro hrates
      exact
        { rejected := hsound.rejected
          total := hsound.total
          baseline := isPercent_iff.mpr hsound.baseline
          deckSize := hsound.deckSize
          rates := fun rate hrate => isPercent_iff.mpr (hrates rate hrate)
          timeout := htimeout.ne' }
  text connector n := rfl

/-- **Lists of rates.** A list is accepted exactly if every entry that is not blank writes a rate
(`WritesRate`), and these rates are then the settings, in order and with repeated names. If an entry
writes none, there are no rates, and the check fails for the whole value. Written rates are read
again, and the check names the first rate that is no percentage, if nothing is wrong before. -/
theorem accepted_iff_and_checksRates {lookup : Lookup} {raw : String}
    (h : lookup "SIM_CONNECTOR_SUCCESS_RATES" = some raw) :
    ((∀ text, ⟨"SIM_CONNECTOR_SUCCESS_RATES", text⟩ ∉ (ofLookup lookup).rejected) ↔
        ∀ entry ∈ entries raw, ∃ rate, WritesRate entry rate) ∧
      ((∀ entry ∈ entries raw, ∃ rate, WritesRate entry rate) →
        List.Forall₂ WritesRate (entries raw) (ofLookup lookup).rates) ∧
      ((∃ entry ∈ entries raw, ¬∃ rate, WritesRate entry rate) →
        (ofLookup lookup).rates = [] ∧ ∃ rejected,
          (ofLookup lookup).validate = .error (.unparsable rejected) ∧
          ⟨"SIM_CONNECTOR_SUCCESS_RATES", Text.trim raw⟩ ∈ rejected ∧
          (ConfigurationFault.unparsable rejected).text = "unparsable values: " ++
            ", ".intercalate (rejected.map fun r => r.name ++ "=" ++ Text.quote r.value)) ∧
      (∀ rates : List (String × Int),
        (∀ rate ∈ rates, Text.Clean [',', '='] rate.1 ∧ Number.FitsWord rate.2) →
        raw = writeRates rates →
        (ofLookup lookup).rates = rates ∧
          ∀ text, ⟨"SIM_CONNECTOR_SUCCESS_RATES", text⟩ ∉ (ofLookup lookup).rejected) ∧
      ChecksRates (ofLookup lookup) := by
  have hlisted : (∀ text, ⟨"SIM_CONNECTOR_SUCCESS_RATES", text⟩ ∉ (ofLookup lookup).rejected) ↔
      connectorRates? raw ≠ none := by
    simp only [mem_rejected_iff h, not_and, forall_eq]
  have hread : connectorRates? raw ≠ none ↔
      ∀ entry ∈ entries raw, ∃ rate, WritesRate entry rate := by
    rw [ne_eq, connectorRates?_eq_none_iff]
    simp only [not_exists, not_and, not_forall, not_not]
  refine ⟨hlisted.trans hread, fun hentries => ?_, fun hbad => ?_, fun rates hrates hraw => ?_,
    checksRates _⟩
  · obtain ⟨rates, hrates⟩ := Option.ne_none_iff_exists'.mp (hread.mpr hentries)
    rw [rates_ofLookup h, hrates]
    exact connectorRates?_eq_some_iff.mp hrates
  · have hnone := connectorRates?_eq_none_iff.mpr hbad
    have hmem := (mem_rejected_iff h).mpr ⟨rfl, hnone⟩
    refine ⟨?_, _, validate_eq_unparsable_iff.mpr ⟨List.ne_nil_of_mem hmem, rfl⟩, hmem, rfl⟩
    rw [rates_ofLookup h, hnone]
    rfl
  · have hread : connectorRates? raw = some rates := by
      rw [hraw]
      exact connectorRates?_writeRates (fun rate hrate => (hrates rate hrate).1)
        fun rate hrate => (hrates rate hrate).2
    rw [rates_ofLookup h, hlisted, hread]
    exact ⟨rfl, nofun⟩

/-- White space, a blank entry, signs and a repeated name. The second rate is no percentage. -/
theorem accepted_iff_and_checksRates_of_repeated :
    let raw := " a=100, b = -1 ,,a=+7 "
    let lookup : Lookup := fun name =>
      if name = "SIM_CONNECTOR_SUCCESS_RATES" then some raw else none
    lookup "SIM_CONNECTOR_SUCCESS_RATES" = some raw ∧
      (∀ entry ∈ entries raw, ∃ rate, WritesRate entry rate) ∧
      List.Forall₂ WritesRate (entries raw) (ofLookup lookup).rates ∧
      (ofLookup lookup).validate = .error (.connectorRate "b" (-1)) := by
  intro raw lookup
  have hraw : lookup "SIM_CONNECTOR_SUCCESS_RATES" = some raw := rfl
  have hread : connectorRates? raw = some [("a", 100), ("b", -1), ("a", 7)] := by decide +kernel
  have hentries := exists_forall₂_iff.mp ⟨_, connectorRates?_eq_some_iff.mp hread⟩
  obtain ⟨-, hrates, -, -, hchecks⟩ := accepted_iff_and_checksRates hraw
  refine ⟨hraw, hentries, hrates hentries, (hchecks.names_iff _ _).mpr ⟨?_, ?_⟩⟩
  · exact ⟨by decide +kernel, by decide, by decide, by decide⟩
  · rw [rates_ofLookup hraw, hread]
    exact ⟨[("a", 100)], [("a", 7)], rfl, by decide, by decide⟩

end RouterTrial.Settings
