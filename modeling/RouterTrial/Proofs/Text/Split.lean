import RouterTrial.Proofs.Text.Blank
import RouterTrial.Text.Split

/-!
# Texts in parts

The parts of a text between separators are those of the library's `List.splitOn` (`splitOn_eq`), so
that parts without separators are found again in the text that joins them. White space around a
text changes nothing but the white space around its parts (`map_trimChars_splitOn`,
`map_trimChars_cut`), if a separator is no white space.
-/

namespace RouterTrial.Text

variable {sep : Char}

/-! ### Parts between separators -/

theorem splitOn_eq (sep : Char) (cs : List Char) : splitOn sep cs = cs.splitOn sep := by
  induction cs with
  | nil => rfl
  | cons c cs ih =>
    rw [splitOn, List.splitOn_cons_eq_if_modifyHead, ← ih]
    by_cases hc : c = sep
    · rw [if_pos hc, if_pos (beq_iff_eq.mpr hc)]
    · rw [if_neg hc, if_neg (fun h => hc (beq_iff_eq.mp h))]
      cases hparts : splitOn sep cs with
      | nil => exact absurd hparts (splitOn_ne_nil sep cs)
      | cons part parts => rfl

theorem splitOn_of_notMem {cs : List Char} (h : sep ∉ cs) : splitOn sep cs = [cs] := by
  rw [splitOn_eq, List.splitOn_eq_singleton h]

/-- The separator `sep` between two texts puts the parts of the one before those of the other. -/
theorem splitOn_append_cons (cs cs' : List Char) :
    splitOn sep (cs ++ sep :: cs') = splitOn sep cs ++ splitOn sep cs' := by
  simp only [splitOn_eq, List.splitOn_append_cons_self]

/-- Parts without separators are found again in the text that joins `parts`. -/
theorem splitOn_intercalate {parts : List (List Char)} (hne : parts ≠ [])
    (h : ∀ part ∈ parts, sep ∉ part) : splitOn sep ([sep].intercalate parts) = parts := by
  rw [splitOn_eq, List.splitOn_intercalate sep h hne]

theorem splitOn_cons_of_ne {c : Char} (hc : c ≠ sep) (cs : List Char) :
    splitOn sep (c :: cs) = (splitOn sep cs).modifyHead (c :: ·) := by
  rw [splitOn_eq, splitOn_eq, List.splitOn_cons_eq_if_modifyHead,
    if_neg fun h => hc (beq_iff_eq.mp h)]

/-- No part has the separator `sep`. -/
theorem notMem_of_mem_splitOn {cs part : List Char} (h : part ∈ splitOn sep cs) : sep ∉ part := by
  induction cs generalizing part with
  | nil =>
    obtain rfl := List.mem_singleton.mp h
    exact List.not_mem_nil
  | cons c cs ih =>
    by_cases hc : c = sep
    · rw [splitOn, if_pos hc, List.mem_cons] at h
      rcases h with rfl | h
      · exact List.not_mem_nil
      · exact ih h
    · rw [splitOn_cons_of_ne hc] at h
      obtain ⟨first, rest, hparts⟩ := List.exists_cons_of_ne_nil (splitOn_ne_nil sep cs)
      rw [hparts] at h ih
      rcases List.mem_cons.mp h with rfl | h
      · exact List.not_mem_cons_of_ne_of_not_mem (Ne.symm hc) (ih List.mem_cons_self)
      · exact ih (List.mem_cons_of_mem first h)

/-! ### The text before the first separator -/

theorem cut_eq_none_iff {cs : List Char} : cut sep cs = none ↔ sep ∉ cs := by
  rw [Option.eq_none_iff_forall_not_mem]
  constructor
  · intro h hmem
    obtain ⟨before, behind, hcs, hbefore⟩ := List.eq_append_cons_of_mem hmem
    exact h _ (cut_eq_some_iff.mpr ⟨hcs, hbefore⟩)
  · rintro h ⟨before, behind⟩ hcut
    rw [(cut_eq_some_iff.mp hcut).1] at h
    exact h (List.mem_append_right _ List.mem_cons_self)

/-! ### White space -/

/-- White space `before` a text stands before its first part. -/
private theorem splitOn_append_left {before : List Char} (hbefore : sep ∉ before) (cs : List Char) :
    splitOn sep (before ++ cs) = (splitOn sep cs).modifyHead (before ++ ·) := by
  induction before with
  | nil =>
    rw [List.nil_append]
    cases splitOn sep cs <;> rfl
  | cons c before ih =>
    obtain ⟨hc, hbefore⟩ := List.ne_and_not_mem_of_not_mem_cons hbefore
    rw [List.cons_append, splitOn_cons_of_ne hc.symm, ih hbefore, List.modifyHead_modifyHead]
    rfl

/-- White space `behind` a text stands behind its last part. -/
private theorem exists_splitOn_append_right {behind : List Char} (hbehind : sep ∉ behind)
    (cs : List Char) :
    ∃ parts last, splitOn sep cs = parts ++ [last] ∧
      splitOn sep (cs ++ behind) = parts ++ [last ++ behind] := by
  induction cs with
  | nil => exact ⟨[], [], rfl, splitOn_of_notMem hbehind⟩
  | cons c cs ih =>
    obtain ⟨parts, last, hcs, hbehind⟩ := ih
    by_cases hc : c = sep
    · refine ⟨[] :: parts, last, ?_, ?_⟩
      · rw [splitOn, if_pos hc, hcs, List.cons_append]
      · rw [List.cons_append, splitOn, if_pos hc, hbehind, List.cons_append]
    · rw [List.cons_append, splitOn_cons_of_ne hc, splitOn_cons_of_ne hc, hcs, hbehind]
      cases parts with
      | nil => exact ⟨[], c :: last, rfl, rfl⟩
      | cons part parts => exact ⟨(c :: part) :: parts, last, rfl, rfl⟩

/-- The parts of `cs` and those of the trimmed text are the same but for white space. -/
theorem map_trimChars_splitOn (hsep : isBlank sep = false) (cs : List Char) :
    (splitOn sep (trimChars cs)).map trimChars = (splitOn sep cs).map trimChars := by
  obtain ⟨before, behind, hbefore, hbehind, hcs⟩ := exists_eq_append_trimChars cs
  obtain ⟨parts, last, hparts, hlast⟩ :=
    exists_splitOn_append_right (hbehind.notMem hsep) (before ++ trimChars cs)
  have htrimBehind : trimChars (last ++ behind) = trimChars last :=
    trimChars_append blank_nil hbehind last
  have htrimBefore : ∀ part, trimChars (before ++ part) = trimChars part := by
    intro part
    rw [← List.append_nil (before ++ part), trimChars_append hbefore blank_nil]
  calc (splitOn sep (trimChars cs)).map trimChars
    _ = ((splitOn sep (trimChars cs)).modifyHead (before ++ ·)).map trimChars := by
        cases splitOn sep (trimChars cs) with
        | nil => rfl
        | cons part parts => simp only [List.modifyHead_cons, List.map_cons, htrimBefore]
    _ = (parts ++ [last]).map trimChars := by
        rw [← splitOn_append_left (hbefore.notMem hsep), hparts]
    _ = (parts ++ [last ++ behind]).map trimChars := by
        simp only [List.map_append, List.map_cons, htrimBehind]
    _ = (splitOn sep cs).map trimChars := by rw [← hlast, ← hcs]

/-- The text `cs` and the trimmed text are cut in the same way but for white space. -/
theorem map_trimChars_cut (hsep : isBlank sep = false) (cs : List Char) :
    (cut sep (trimChars cs)).map (Prod.map trimChars trimChars)
      = (cut sep cs).map (Prod.map trimChars trimChars) := by
  obtain ⟨before, behind, hbefore, hbehind, hcs⟩ := exists_eq_append_trimChars cs
  cases hcut : cut sep (trimChars cs) with
  | none =>
    have hmem : sep ∉ cs := fun h => cut_eq_none_iff.mp hcut (mem_trimChars h hsep)
    rw [cut_eq_none_iff.mpr hmem]
  | some parts =>
    obtain ⟨name, value⟩ := parts
    obtain ⟨htrim, hname⟩ := cut_eq_some_iff.mp hcut
    have hcut' : cut sep cs = some (before ++ name, value ++ behind) := by
      rw [cut_eq_some_iff, List.mem_append, not_or]
      refine ⟨?_, hbefore.notMem hsep, hname⟩
      rw [hcs, htrim, List.append_assoc, List.append_assoc, List.append_assoc, List.cons_append]
    have hbefore' := trimChars_append hbefore blank_nil name
    have hbehind' := trimChars_append blank_nil hbehind value
    rw [List.append_nil] at hbefore'
    rw [List.nil_append] at hbehind'
    rw [hcut', Option.map_some, Option.map_some, Prod.map_apply, Prod.map_apply, hbefore', hbehind']

end RouterTrial.Text
