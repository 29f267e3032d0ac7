import Mathlib.Algebra.Ring.Nat
import RouterTrial.Proofs.Text.Split
import RouterTrial.Report.Markdown

/-!
# Lines and cells

A text is taken apart again into its lines (`lines`), and the row of a table into its cells
(`cells`). Where a string is written as one line it makes up as many as it has pieces, so what is
found again is what was written exactly if no string holds the end of a line
(`lines_unlines_eq_iff`). In the same way a string that is written as one cell is found as one
exactly if it holds no bar (`length_cellsIn_eq_one_iff`), where a bar behind a backslash does not
count.
-/

namespace RouterTrial.Text

/-! ### Lines -/

/-- The lines that the string `s` makes up where it is written as one. -/
def pieces (s : String) : List String := (splitOn '\n' s.toList).map String.ofList

/-- The lines of the text `s`, which stand before the ends of lines. -/
def lines (s : String) : List String := (pieces s).dropLast

/-- The number of ends of lines that the string `s` holds. -/
def breaks (s : String) : Nat := s.toList.count '\n'

@[simp]
theorem breaks_append (s t : String) : breaks (s ++ t) = breaks s + breaks t := by
  rw [breaks, String.toList_append, List.count_append, breaks, breaks]

theorem breaks_eq_zero_iff {s : String} : breaks s = 0 ↔ '\n' ∉ s.toList :=
  List.count_eq_zero

theorem breaks_eq_zero {s : String} (h : '\n' ∉ s.toList) : breaks s = 0 :=
  breaks_eq_zero_iff.mpr h

private theorem isDigit_of_mem_toString {n : Nat} {c : Char} (h : c ∈ (toString n).toList) :
    c.isDigit = true := by
  have hdigits : (toString n).toList = Nat.toDigits 10 n := Nat.toList_repr
  rw [hdigits] at h
  exact Nat.isDigit_of_mem_toDigits (by decide) (by decide) h

@[simp]
theorem breaks_repr (n : Nat) : breaks n.repr = 0 :=
  breaks_eq_zero fun h => absurd (isDigit_of_mem_toString h) (by decide)

@[simp]
theorem breaks_spaces (n : Nat) : breaks (String.ofList (List.replicate n ' ')) = 0 := by
  rw [breaks_eq_zero_iff, String.toList_ofList, List.mem_replicate]
  exact fun h => absurd h.2 (by decide)

@[simp]
theorem breaks_padEnd (width : Nat) (s : String) : breaks (padEnd width s) = breaks s := by
  rw [padEnd, breaks_append, breaks_spaces, Nat.add_zero]

@[simp]
theorem breaks_padStart (width : Nat) (s : String) : breaks (padStart width s) = breaks s := by
  rw [padStart, breaks_append, breaks_spaces, Nat.zero_add]

@[simp]
theorem breaks_padZeros (width n : Nat) : breaks (padZeros width n) = 0 := by
  have hzeros : breaks (String.ofList (List.replicate (width - (toString n).length) '0')) = 0 := by
    rw [breaks_eq_zero_iff, String.toList_ofList, List.mem_replicate]
    exact fun h => absurd h.2 (by decide)
  rw [padZeros, breaks_append, hzeros, Nat.zero_add]
  exact breaks_repr n

theorem length_pieces (s : String) : (pieces s).length = breaks s + 1 := by
  rw [pieces, List.length_map, breaks]
  induction s.toList with
  | nil => rfl
  | cons c cs ih =>
    by_cases hc : c = '\n'
    · rw [splitOn, if_pos hc, List.length_cons, ih, hc, List.count_cons_self]
    · rw [splitOn_cons_of_ne hc, List.length_modifyHead, ih, List.count_cons_of_ne hc]

/-- A string `s` that does not hold the end of a line is one line. -/
private theorem pieces_eq_singleton {s : String} (h : '\n' ∉ s.toList) : pieces s = [s] := by
  rw [pieces, splitOn_of_notMem h, List.map_singleton, String.ofList_toList]

/-- What is written on the lines `ls` makes up the lines that each string makes up. -/
theorem lines_unlines (ls : List String) : lines (unlines ls) = ls.flatMap pieces := by
  induction ls with
  | nil => rfl
  | cons l ls ih =>
    have htext : (unlines (l :: ls)).toList = l.toList ++ '\n' :: (unlines ls).toList := by
      rw [unlines, List.map_cons, String.join_cons, String.toList_append, String.toList_append,
        List.append_assoc]
      rfl
    -- the part behind the last end of a line, which is left out, belongs to the other lines
    have hne : (splitOn '\n' (unlines ls).toList).map String.ofList ≠ [] :=
      fun h => splitOn_ne_nil _ _ (List.map_eq_nil_iff.mp h)
    rw [List.flatMap_cons, ← ih, lines, pieces, htext, splitOn_append_cons, List.map_append,
      List.dropLast_append_of_ne_nil hne]
    rfl

theorem length_lines_unlines (ls : List String) :
    (lines (unlines ls)).length = ls.length + (ls.map breaks).sum := by
  rw [lines_unlines]
  induction ls with
  | nil => rfl
  | cons l ls ih =>
    rw [List.flatMap_cons, List.length_append, ih, length_pieces, List.length_cons, List.map_cons,
      List.sum_cons]
    omega

/-- The lines `ls` are found again exactly if none of them holds the end of another one. -/
theorem lines_unlines_eq_iff {ls : List String} :
    lines (unlines ls) = ls ↔ (ls.map breaks).sum = 0 := by
  constructor
  -- each end of a line within a string makes one line more, and here there are no more
  · intro h
    have hlength := length_lines_unlines ls
    rw [h] at hlength
    omega
  · intro h
    have hpieces : ∀ l ∈ ls, pieces l = [l] := by
      intro l hl
      have hl := List.sum_eq_zero_iff_forall_eq_nat.mp h _ (List.mem_map_of_mem hl)
      exact pieces_eq_singleton (breaks_eq_zero_iff.mp hl)
    rw [lines_unlines, List.flatMap_def, List.map_congr_left hpieces, ← List.flatMap_def,
      List.flatMap_singleton']

/-! ### Cells -/

/-- The parts of a row between its bars. A bar right behind a backslash belongs to a part. -/
def cutCells : Bool → List Char → List (List Char)
  | _, [] => [[]]
  | escaped, c :: cs =>
    if c = '|' ∧ escaped = false then [] :: cutCells false cs
    else (cutCells (c = '\\') cs).modifyHead (c :: ·)

/-- The cells of a `row`, without the white space around them: what stands between two bars. -/
def cells (row : String) : List String :=
  ((cutCells false row.toList).tail.dropLast.map trimChars).map String.ofList

/-- The cells that the string `s` makes up where it is written as one. -/
def cellsIn (s : String) : List String :=
  ((cutCells false s.toList).map trimChars).map String.ofList

/-- The string `s` holds a bar that is not right behind a backslash. -/
def Barred (s : String) : Prop :=
  ∃ before behind, s.toList = before ++ '|' :: behind ∧ before.getLast? ≠ some '\\'

theorem cutCells_ne_nil (escaped : Bool) (cs : List Char) : cutCells escaped cs ≠ [] := by
  induction cs generalizing escaped with
  | nil => exact List.cons_ne_nil _ _
  | cons c cs ih =>
    rw [cutCells]
    split
    · exact List.cons_ne_nil _ _
    · rw [ne_eq, List.modifyHead_eq_nil_iff]
      exact ih _

/-- A bar behind a space ends a cell, whatever `cs` is. -/
private theorem exists_cutCells_append (escaped : Bool) (cs rest : List Char) :
    ∃ parts last, cutCells escaped cs = parts ++ [last] ∧
      cutCells escaped (cs ++ ' ' :: '|' :: rest)
        = parts ++ (last ++ [' ']) :: cutCells false rest := by
  -- the space keeps the bar from a backslash that `cs` may end with
  induction cs generalizing escaped with
  | nil => exact ⟨[], [], rfl, by simp [cutCells]⟩
  | cons c cs ih =>
    rw [List.cons_append, cutCells, cutCells]
    by_cases hbar : c = '|' ∧ escaped = false
    · obtain ⟨parts, last, hcs, hrest⟩ := ih false
      rw [if_pos hbar, if_pos hbar, hcs, hrest]
      exact ⟨[] :: parts, last, rfl, rfl⟩
    · obtain ⟨parts, last, hcs, hrest⟩ := ih (c = '\\')
      rw [if_neg hbar, if_neg hbar, hcs, hrest]
      cases parts with
      | nil => exact ⟨[], c :: last, rfl, rfl⟩
      | cons part parts => exact ⟨(c :: part) :: parts, last, rfl, rfl⟩

private theorem map_trimChars_cutCells_append (escaped : Bool) (cs rest : List Char) :
    (cutCells escaped (cs ++ ' ' :: '|' :: rest)).map trimChars
      = (cutCells escaped cs).map trimChars ++ (cutCells false rest).map trimChars := by
  obtain ⟨parts, last, hcs, hrest⟩ := exists_cutCells_append escaped cs rest
  have htrim : trimChars (last ++ [' ']) = trimChars last :=
    trimChars_append blank_nil (by decide) last
  rw [hcs, hrest, List.map_append, List.map_cons, htrim, List.map_append, List.append_assoc]
  rfl

private theorem map_trimChars_cutCells_space (escaped : Bool) (cs : List Char) :
    (cutCells escaped (' ' :: cs)).map trimChars = (cutCells false cs).map trimChars := by
  have htrim : ∀ part, trimChars (' ' :: part) = trimChars part := by
    intro part
    have htrim : trimChars ([' '] ++ part ++ []) = trimChars part :=
      trimChars_append (by decide) blank_nil part
    rwa [List.append_nil] at htrim
  rw [cutCells, if_neg (fun h => absurd h.1 (by decide))]
  have hescaped : decide (' ' = '\\') = false := by decide
  rw [hescaped]
  cases cutCells false cs with
  | nil => rfl
  | cons part parts => rw [List.modifyHead_cons, List.map_cons, htrim, List.map_cons]

/-- A row is its `texts`, each between bars and spaces. -/
theorem toList_row {texts : List String} (hne : texts ≠ []) :
    (Report.row texts).toList
      = '|' :: texts.flatMap fun t => ' ' :: (t.toList ++ [' ', '|']) := by
  rw [Report.row, String.toList_append, String.toList_append, String.toList_intercalate]
  change '|' :: ' ' :: (_ ++ _) = _
  congr 1
  induction texts with
  | nil => exact absurd rfl hne
  | cons t texts ih =>
    cases texts with
    | nil => simp [List.intercalate_singleton]
    | cons t' texts =>
      rw [List.flatMap_cons, ← ih (List.cons_ne_nil _ _), List.map_cons, List.map_cons,
        List.intercalate_cons_cons, ← List.map_cons]
      simp

/-- The parts of what a row of `texts` holds behind its first bar, the last one of which is
empty. -/
theorem map_trimChars_cutCells_flatMap (texts : List String) :
    (cutCells false (texts.flatMap fun t => ' ' :: (t.toList ++ [' ', '|']))).map trimChars
      = texts.flatMap (fun t => (cutCells false t.toList).map trimChars) ++ [[]] := by
  induction texts with
  | nil => rfl
  | cons t texts ih =>
    rw [List.flatMap_cons, List.cons_append, List.append_assoc, List.cons_append,
      List.cons_append, List.nil_append, map_trimChars_cutCells_space,
      map_trimChars_cutCells_append, ih, List.flatMap_cons, List.append_assoc]

/-- A row has the cells that each of its `texts` makes up. -/
theorem cells_row {texts : List String} (hne : texts ≠ []) :
    cells (Report.row texts) = texts.flatMap cellsIn := by
  have hbar : ∀ cs, cutCells false ('|' :: cs) = [] :: cutCells false cs := fun cs => by
    rw [cutCells, if_pos ⟨rfl, rfl⟩]
  rw [cells, toList_row hne, hbar, List.tail_cons, List.map_dropLast,
    map_trimChars_cutCells_flatMap, List.dropLast_concat, List.map_flatMap]
  rfl

/-- What stands behind a text is escaped: the text ends with a backslash. -/
def escapes (escaped : Bool) (before : List Char) : Bool :=
  (before.getLast?.map fun c => decide (c = '\\')).getD escaped

private theorem escapes_cons (escaped : Bool) (c : Char) (before : List Char) :
    escapes escaped (c :: before) = escapes (c = '\\') before := by
  rw [escapes, escapes, List.getLast?_cons]
  cases before.getLast? <;> rfl

private theorem length_cutCells_eq_one_iff {escaped : Bool} {cs : List Char} :
    (cutCells escaped cs).length = 1 ↔
      ∀ before behind, cs = before ++ '|' :: behind → escapes escaped before = true := by
  induction cs generalizing escaped with
  | nil => exact iff_of_true rfl fun before behind h => by cases before <;> cases h
  | cons c cs ih =>
    rw [cutCells]
    by_cases hbar : c = '|' ∧ escaped = false
    · obtain ⟨rfl, rfl⟩ := hbar
      rw [if_pos ⟨rfl, rfl⟩, List.length_cons]
      have hpos := List.length_pos_iff.mpr (cutCells_ne_nil false cs)
      exact iff_of_false (by omega) fun h => Bool.false_ne_true (h [] cs rfl)
    · rw [if_neg hbar, List.length_modifyHead, ih]
      constructor
      -- a bar that stands first is escaped from the left, and any other one lies in the rest
      · rintro h (_ | ⟨c', before⟩) behind heq
        · obtain ⟨rfl, -⟩ := List.cons.inj heq
          cases escaped with
          | false => exact absurd ⟨rfl, rfl⟩ hbar
          | true => rfl
        · obtain ⟨rfl, hcs⟩ := List.cons.inj heq
          rw [escapes_cons]
          exact h before behind hcs
      · intro h before behind heq
        rw [← escapes_cons escaped]
        exact h (c :: before) behind (congrArg (c :: ·) heq)

/-- A text `cs` that makes up one part is that part. -/
private theorem cutCells_eq_singleton {escaped : Bool} {cs : List Char}
    (h : (cutCells escaped cs).length = 1) : cutCells escaped cs = [cs] := by
  induction cs generalizing escaped with
  | nil => rfl
  | cons c cs ih =>
    rw [cutCells] at h ⊢
    split at h
    · have hpos := List.length_pos_iff.mpr (cutCells_ne_nil false cs)
      rw [List.length_cons] at h
      omega
    · rename_i hbar
      rw [List.length_modifyHead] at h
      rw [if_neg hbar, ih h, List.modifyHead_cons]

/-- The string `s` is one cell exactly if it holds no bar, but for those right behind a
backslash. -/
theorem length_cellsIn_eq_one_iff {s : String} : (cellsIn s).length = 1 ↔ ¬Barred s := by
  rw [cellsIn, List.length_map, List.length_map, length_cutCells_eq_one_iff, Barred]
  have hescapes : ∀ before : List Char,
      escapes false before = true ↔ before.getLast? = some '\\' := by
    intro before
    rw [escapes]
    cases before.getLast? with
    | none => exact iff_of_false Bool.false_ne_true (Option.some_ne_none _).symm
    | some c => rw [Option.map_some, Option.getD_some, decide_eq_true_iff, Option.some_inj]
  simp only [hescapes, not_exists, not_and, ne_eq, not_not]

/-- A string that is not `Barred` is found without the white space around it. -/
theorem cellsIn_of_not_barred {s : String} (h : ¬Barred s) : cellsIn s = [trim s] := by
  rw [← length_cellsIn_eq_one_iff, cellsIn, List.length_map, List.length_map] at h
  rw [cellsIn, cutCells_eq_singleton h]
  rfl

/-- The number `n` is one cell. -/
@[simp]
theorem cellsIn_toString (n : Nat) : cellsIn (toString n) = [toString n] := by
  have hbar : ¬Barred (toString n) := by
    rintro ⟨before, behind, htext, -⟩
    have hmem : '|' ∈ (toString n).toList := htext ▸ List.mem_append_right _ List.mem_cons_self
    exact absurd (isDigit_of_mem_toString hmem) (by decide)
  have htrim : trimChars (toString n).toList = (toString n).toList :=
    trimChars_eq_self fun c hc => isBlank_of_isDigit (isDigit_of_mem_toString hc)
  rw [cellsIn_of_not_barred hbar, trim, htrim, String.ofList_toList]

end RouterTrial.Text
