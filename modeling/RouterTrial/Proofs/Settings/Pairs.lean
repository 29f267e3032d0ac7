import Mathlib.Data.List.Forall2
import RouterTrial.Proofs.Text.Split
import RouterTrial.Settings.Pairs

/-!
# Lists of accounts

What a list of accounts is read as. Every pair has a name and an account in their clean form
(`Text.Clean`): not empty, without white space around them and without separators. Such pairs have
a written form (`writePairs`), which is read as these pairs again, also with white space around the
names and the accounts. Lists can be joined by a comma, and an entry that is no pair takes nothing
else with it (`connectorPairs_and_writePairs`).
-/

namespace RouterTrial

namespace Text

/-- The text `s` is not empty, and it has neither white space around it nor `separators` in it. -/
structure Clean (separators : List Char) (s : String) : Prop where
  ne_empty : s ≠ ""
  trimmed : trim s = s
  free : ∀ c ∈ separators, c ∉ s.toList

/-- What is left of a text that is not blank is clean of the `separators` that it does not have. -/
private theorem clean_trimChars {separators cs : List Char} (hcs : ¬Blank cs)
    (hfree : ∀ c ∈ separators, c ∉ cs) : Clean separators (String.ofList (trimChars cs)) where
  ne_empty h := by
    rw [String.ofList_eq_empty_iff, trimChars_eq_nil_iff] at h
    exact hcs h
  trimmed := by rw [trim, String.toList_ofList, trimChars_trimChars]
  free c hc hmem := by
    rw [String.toList_ofList] at hmem
    exact hfree c hc (mem_of_mem_trimChars hmem)

/-- The text `padded` is `s` with white space around it. -/
def Pads (s padded : String) : Prop :=
  ∃ before behind, Blank before ∧ Blank behind ∧ padded.toList = before ++ s.toList ++ behind

theorem Pads.refl (s : String) : Pads s s :=
  ⟨[], [], blank_nil, blank_nil, by rw [List.nil_append, List.append_nil]⟩

section Pads

variable {separators : List Char} {s padded : String} (h : Pads s padded)
include h

private theorem Pads.trimChars_eq (hclean : Clean separators s) :
    trimChars padded.toList = s.toList := by
  obtain ⟨before, behind, hbefore, hbehind, hpadded⟩ := h
  rw [hpadded, trimChars_append hbefore hbehind, ← trim_toList, hclean.trimmed]

private theorem Pads.not_blank (hclean : Clean separators s) : ¬Blank padded.toList := by
  rw [← trimChars_eq_nil_iff, h.trimChars_eq hclean, String.toList_eq_nil_iff]
  exact hclean.ne_empty

/-- White space brings no `separators`. -/
theorem Pads.notMem (hclean : Clean separators s) {c : Char} (hc : c ∈ separators)
    (hblank : isBlank c = false) : c ∉ padded.toList := by
  obtain ⟨before, behind, hbefore, hbehind, hpadded⟩ := h
  rw [hpadded, List.mem_append, List.mem_append, not_or, not_or]
  exact ⟨⟨hbefore.notMem hblank, hclean.free c hc⟩, hbehind.notMem hblank⟩

end Pads

end Text

namespace Settings

/-! ### Entries -/

/-- The `entry` is a name and an account, white space around them apart, with the first equals sign
of the entry between them. -/
def WritesPair (entry : List Char) (p : String × String) : Prop :=
  ∃ before behind, entry = before ++ '=' :: behind ∧ '=' ∉ before ∧
    ¬Text.Blank before ∧ ¬Text.Blank behind ∧
    p = (String.ofList (Text.trimChars before), String.ofList (Text.trimChars behind))

theorem connectorPair?_eq_some_iff {entry : List Char} {p : String × String} :
    connectorPair? entry = some p ↔ WritesPair entry p := by
  rw [connectorPair?, Option.bind_eq_some_iff, WritesPair]
  simp only [Prod.exists, Text.cut_eq_some_iff, ← Text.trimChars_eq_nil_iff]
  refine exists_congr fun before => exists_congr fun behind => ?_
  rw [and_assoc, ← List.isEmpty_iff, ← List.isEmpty_iff]
  cases (Text.trimChars before).isEmpty <;> cases (Text.trimChars behind).isEmpty <;>
    simp [eq_comm]

/-- An `entry` without a comma gives a clean pair. -/
theorem WritesPair.clean {entry : List Char} {p : String × String} (h : WritesPair entry p)
    (hentry : ',' ∉ entry) : Text.Clean [',', '='] p.1 ∧ Text.Clean [','] p.2 := by
  obtain ⟨before, behind, rfl, hequals, hbefore, hbehind, rfl⟩ := h
  rw [List.mem_append, List.mem_cons, not_or, not_or] at hentry
  obtain ⟨hbefore', -, hbehind'⟩ := hentry
  refine ⟨Text.clean_trimChars hbefore ?_, Text.clean_trimChars hbehind ?_⟩
  · rintro c (_ | ⟨_, _ | ⟨_, ⟨⟩⟩⟩)
    · exact hbefore'
    · exact hequals
  · rintro c (_ | ⟨_, ⟨⟩⟩)
    exact hbehind'

/-! ### Written forms -/

/-- The characters of the written pair `p`. -/
def pairChars (p : String × String) : List Char := p.1.toList ++ '=' :: p.2.toList

/-- The written form of `pairs`. -/
def writePairs (pairs : List (String × String)) : String :=
  ",".intercalate (pairs.map fun p => p.1 ++ "=" ++ p.2)

private theorem toList_writePairs (pairs : List (String × String)) :
    (writePairs pairs).toList = [','].intercalate (pairs.map pairChars) := by
  have hpair : ∀ p : String × String, (p.1 ++ "=" ++ p.2).toList = pairChars p := by
    intro p
    rw [pairChars, String.toList_append, String.toList_append, List.append_assoc]
    rfl
  rw [writePairs, String.toList_intercalate, List.map_map]
  exact congrArg [','].intercalate (List.map_congr_left fun p _ => hpair p)

/-- The entries of a written list are the written `pairs`, if there are any. -/
theorem splitOn_writePairs {pairs : List (String × String)} (hne : pairs ≠ [])
    (h : ∀ p ∈ pairs, ',' ∉ p.1.toList ∧ ',' ∉ p.2.toList) :
    Text.splitOn ',' (writePairs pairs).toList = pairs.map pairChars := by
  rw [toList_writePairs, Text.splitOn_intercalate]
  · rwa [ne_eq, List.map_eq_nil_iff]
  · intro entry hentry
    obtain ⟨p, hp, rfl⟩ := List.mem_map.mp hentry
    rw [pairChars, List.mem_append, List.mem_cons, not_or, not_or]
    exact ⟨(h p hp).1, by decide, (h p hp).2⟩

/-! ### Lists -/

/-- The text of `padded` is the pair `p`, white space around its name and its account apart. -/
def PadsPair (p padded : String × String) : Prop :=
  Text.Pads p.1 padded.1 ∧ Text.Pads p.2 padded.2

private theorem PadsPair.connectorPair?_eq {p padded : String × String} (h : PadsPair p padded)
    (hname : Text.Clean [',', '='] p.1) (haccount : Text.Clean [','] p.2) :
    connectorPair? (pairChars padded) = some p := by
  refine connectorPair?_eq_some_iff.mpr ⟨_, _, rfl, ?_, h.1.not_blank hname,
    h.2.not_blank haccount, ?_⟩
  · exact h.1.notMem hname (by decide) (by decide)
  · rw [h.1.trimChars_eq hname, h.2.trimChars_eq haccount, String.ofList_toList,
      String.ofList_toList]

theorem PadsPair.notMem {p padded : String × String} (h : PadsPair p padded)
    (hname : Text.Clean [',', '='] p.1) (haccount : Text.Clean [','] p.2) :
    ',' ∉ padded.1.toList ∧ ',' ∉ padded.2.toList :=
  ⟨h.1.notMem hname (by decide) (by decide), h.2.notMem haccount (by decide) (by decide)⟩

section Lists

variable {pairs padded : List (String × String)}
  (hclean : ∀ p ∈ pairs, Text.Clean [',', '='] p.1 ∧ Text.Clean [','] p.2)
  (h : List.Forall₂ PadsPair pairs padded)
include hclean h

/-- Each written pair has no commas and is read as the pair, whether it is `padded` or not. -/
private theorem read_of_padsPair :
    (∀ q ∈ padded, ',' ∉ q.1.toList ∧ ',' ∉ q.2.toList) ∧
      (padded.map pairChars).filterMap connectorPair? = pairs := by
  induction h with
  | nil => exact ⟨nofun, rfl⟩
  | @cons p q pairs padded hpads _ ih =>
    obtain ⟨hname, haccount⟩ := hclean p List.mem_cons_self
    obtain ⟨hcommas, hread⟩ := ih fun p hp => hclean p (List.mem_cons_of_mem _ hp)
    refine ⟨List.forall_mem_cons.mpr ⟨hpads.notMem hname haccount, hcommas⟩, ?_⟩
    rw [List.map_cons, List.filterMap_cons_some (hpads.connectorPair?_eq hname haccount), hread]

/-- The `pairs` are read from their written form, also if white space is put around their names and
accounts. -/
theorem connectorPairs_writePairs : connectorPairs (writePairs padded) = pairs := by
  obtain ⟨hcommas, hread⟩ := read_of_padsPair hclean h
  by_cases hne : padded = []
  · subst hne
    exact hread
  · rw [connectorPairs, splitOn_writePairs hne hcommas, hread]

end Lists

theorem clean_of_mem_connectorPairs {text : String} {p : String × String}
    (h : p ∈ connectorPairs text) : Text.Clean [',', '='] p.1 ∧ Text.Clean [','] p.2 := by
  obtain ⟨entry, hentry, hp⟩ := List.mem_filterMap.mp h
  exact (connectorPair?_eq_some_iff.mp hp).clean (Text.notMem_of_mem_splitOn hentry)

/-- A comma between the lists `a` and `b` joins them. -/
theorem connectorPairs_append (a b : String) :
    connectorPairs (a ++ "," ++ b) = connectorPairs a ++ connectorPairs b := by
  have hchars : (a ++ "," ++ b).toList = a.toList ++ ',' :: b.toList := by
    rw [String.toList_append, String.toList_append, List.append_assoc]
    rfl
  rw [connectorPairs, hchars, Text.splitOn_append_cons, List.filterMap_append, connectorPairs,
    connectorPairs]

/-- The text `entry` is a single entry that is no pair. -/
def Malformed (entry : String) : Prop :=
  ',' ∉ entry.toList ∧ ¬∃ p, WritesPair entry.toList p

theorem Malformed.connectorPairs_eq {entry : String} (h : Malformed entry) :
    connectorPairs entry = [] := by
  have hnone : connectorPair? entry.toList = none := by
    rw [Option.eq_none_iff_forall_not_mem]
    exact fun p hp => h.2 ⟨p, connectorPair?_eq_some_iff.mp hp⟩
  rw [connectorPairs, Text.splitOn_of_notMem h.1, List.filterMap_cons_none hnone,
    List.filterMap_nil]

/-- **Lists of accounts.** What is read are clean pairs (`Text.Clean`), and all of them are read
from their written form (`writePairs`), in order, with repeated ones and also with white space
around their names and accounts. Lists are joined by a comma, and an entry that is no pair is left
out by itself. -/
theorem connectorPairs_and_writePairs :
    (∀ text, (∀ p ∈ connectorPairs text, Text.Clean [',', '='] p.1 ∧ Text.Clean [','] p.2) ∧
        connectorPairs (writePairs (connectorPairs text)) = connectorPairs text) ∧
      (∀ pairs : List (String × String),
        (∀ p ∈ pairs, Text.Clean [',', '='] p.1 ∧ Text.Clean [','] p.2) →
        connectorPairs (writePairs pairs) = pairs ∧
        ∀ padded, List.Forall₂ PadsPair pairs padded → connectorPairs (writePairs padded) = pairs) ∧
      (∀ a b, connectorPairs (a ++ "," ++ b) = connectorPairs a ++ connectorPairs b) ∧
      ∀ a entry b, Malformed entry →
        connectorPairs (a ++ "," ++ entry ++ "," ++ b) = connectorPairs (a ++ "," ++ b) := by
  have hself : ∀ pairs : List (String × String), List.Forall₂ PadsPair pairs pairs :=
    fun pairs => List.forall₂_same.mpr fun p _ => ⟨.refl p.1, .refl p.2⟩
  refine ⟨fun text => ⟨fun p => clean_of_mem_connectorPairs, ?_⟩,
    fun pairs hclean => ⟨?_, fun padded => connectorPairs_writePairs hclean⟩,
    connectorPairs_append, fun a entry b h => ?_⟩
  · exact connectorPairs_writePairs (fun p => clean_of_mem_connectorPairs) (hself _)
  · exact connectorPairs_writePairs hclean (hself pairs)
  · rw [connectorPairs_append, connectorPairs_append, h.connectorPairs_eq, List.append_nil,
      connectorPairs_append]

end Settings

end RouterTrial
