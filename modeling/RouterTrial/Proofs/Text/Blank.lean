import Mathlib.Data.List.TakeWhile
import RouterTrial.Text.Blank

/-!
# Trimmed texts

Trimming takes white space away from both ends of a text and nothing else
(`exists_eq_append_trimChars`). White space that is put around a text is therefore taken away again
(`trimChars_append`), and a text is blank exactly if nothing is left of it.
-/

namespace RouterTrial.Text

/-- The text `cs` has no other characters than white space. -/
def Blank (cs : List Char) : Prop := ∀ c ∈ cs, isBlank c = true

instance : DecidablePred Blank := fun _ => List.decidableBAll _ _

theorem blank_nil : Blank [] := List.forall_mem_nil _

theorem blank_append {cs cs' : List Char} : Blank (cs ++ cs') ↔ Blank cs ∧ Blank cs' :=
  List.forall_mem_append

theorem not_blank_iff {cs : List Char} : ¬Blank cs ↔ ∃ c ∈ cs, isBlank c = false := by
  simp only [Blank, not_forall, Bool.not_eq_true, exists_prop]

/-- A character `c` that is not white space does not stand in a blank text. -/
theorem Blank.notMem {cs : List Char} (h : Blank cs) {c : Char} (hc : isBlank c = false) :
    c ∉ cs :=
  fun hmem => Bool.false_ne_true (hc.symm.trans (h c hmem))

/-! ### Trimming -/

theorem trimChars_eq_nil_iff {cs : List Char} : trimChars cs = [] ↔ Blank cs := by
  rw [trimChars, dropEndWhile, trimStart, List.reverse_eq_nil_iff, List.dropWhile_eq_nil_iff]
  simp only [List.mem_reverse]
  constructor
  · intro h c hc
    rw [← List.takeWhile_append_dropWhile (p := isBlank) (l := cs), List.mem_append] at hc
    rcases hc with hc | hc
    · exact List.mem_takeWhile_imp hc
    · exact h c hc
  · intro h c hc
    exact h c ((List.dropWhile_sublist _).mem hc)

/-- The characters at the end of the text `cs` that are left out stand behind the rest. -/
private theorem exists_eq_dropEndWhile_append (cs : List Char) :
    ∃ behind, Blank behind ∧ cs = dropEndWhile isBlank cs ++ behind := by
  refine ⟨(cs.reverse.takeWhile isBlank).reverse, fun c hc => ?_, ?_⟩
  · exact List.mem_takeWhile_imp (List.mem_reverse.mp hc)
  · rw [dropEndWhile, ← List.reverse_append, List.takeWhile_append_dropWhile, List.reverse_reverse]

/-- Nothing but white space is taken away from the text `cs`. -/
theorem exists_eq_append_trimChars (cs : List Char) :
    ∃ before behind, Blank before ∧ Blank behind ∧ cs = before ++ trimChars cs ++ behind := by
  obtain ⟨behind, hbehind, hcs⟩ := exists_eq_dropEndWhile_append (trimStart cs)
  refine ⟨cs.takeWhile isBlank, behind, fun c hc => List.mem_takeWhile_imp hc, hbehind, ?_⟩
  rw [List.append_assoc, trimChars, ← hcs, trimStart, List.takeWhile_append_dropWhile]

/-- White space around the text `cs` is taken away. -/
theorem trimChars_append {before behind : List Char} (hbefore : Blank before)
    (hbehind : Blank behind) (cs : List Char) :
    trimChars (before ++ cs ++ behind) = trimChars cs := by
  by_cases hblank : Blank cs
  · rw [trimChars_eq_nil_iff.mpr hblank, trimChars_eq_nil_iff, blank_append, blank_append]
    exact ⟨⟨hbefore, hblank⟩, hbehind⟩
  · have hne : (cs.dropWhile isBlank).isEmpty = false := by
      rw [← Bool.not_eq_true, List.isEmpty_iff, List.dropWhile_eq_nil_iff]
      exact hblank
    have hreverse : ∀ c ∈ behind.reverse, isBlank c = true :=
      fun c hc => hbehind c (List.mem_reverse.mp hc)
    rw [trimChars, trimStart, List.append_assoc, List.dropWhile_append_of_pos hbefore,
      List.dropWhile_append, hne, if_neg Bool.false_ne_true, dropEndWhile, List.reverse_append,
      List.dropWhile_append_of_pos hreverse, trimChars, trimStart, dropEndWhile]

/-- A text that `trimChars` has trimmed stays as it is. -/
theorem trimChars_trimChars (cs : List Char) : trimChars (trimChars cs) = trimChars cs := by
  obtain ⟨before, behind, hbefore, hbehind, hcs⟩ := exists_eq_append_trimChars cs
  rw [← trimChars_append hbefore hbehind, ← hcs]

theorem mem_of_mem_trimChars {cs : List Char} {c : Char} (h : c ∈ trimChars cs) : c ∈ cs := by
  obtain ⟨before, behind, -, -, hcs⟩ := exists_eq_append_trimChars cs
  rw [hcs]
  exact List.mem_append_left _ (List.mem_append_right _ h)

/-- A character `c` of a text that is not white space is kept. -/
theorem mem_trimChars {cs : List Char} {c : Char} (h : c ∈ cs) (hc : isBlank c = false) :
    c ∈ trimChars cs := by
  obtain ⟨before, behind, hbefore, hbehind, hcs⟩ := exists_eq_append_trimChars cs
  rw [hcs, List.mem_append, List.mem_append] at h
  rcases h with (h | h) | h
  · exact absurd h (hbefore.notMem hc)
  · exact h
  · exact absurd h (hbehind.notMem hc)

/-- A text `cs` without white space stays as it is. -/
theorem trimChars_eq_self {cs : List Char} (h : ∀ c ∈ cs, isBlank c = false) :
    trimChars cs = cs := by
  obtain ⟨before, behind, hbefore, hbehind, hcs⟩ := exists_eq_append_trimChars cs
  have hnil : ∀ part, Blank part → (∀ c ∈ part, c ∈ cs) → part = [] :=
    fun part hblank hpart => List.eq_nil_iff_forall_not_mem.mpr fun c hc =>
      Bool.false_ne_true ((h c (hpart c hc)).symm.trans (hblank c hc))
  have hbefore' : before = [] := hnil before hbefore fun c hc => by
    rw [hcs]
    exact List.mem_append_left _ (List.mem_append_left _ hc)
  have hbehind' : behind = [] := hnil behind hbehind fun c hc => by
    rw [hcs]
    exact List.mem_append_right _ hc
  rw [hbefore', hbehind', List.nil_append, List.append_nil] at hcs
  exact hcs.symm

theorem isBlank_of_isDigit {c : Char} (h : c.isDigit = true) : isBlank c = false := by
  rw [Char.isDigit_iff_toNat] at h
  simp only [isBlank, inRanges, blankRanges, List.any_cons, List.any_nil]
  grind

theorem isEmpty_trim_eq_false_iff {s : String} :
    (trim s).isEmpty = false ↔ ∃ c ∈ s.toList, isBlank c = false := by
  rw [← not_blank_iff, ← Bool.not_eq_true, String.isEmpty_iff, ← String.toList_eq_nil_iff,
    trim_toList, trimChars_eq_nil_iff]

end RouterTrial.Text
