/-!
# Splitting at a separator

A text is cut at every separator (`splitOn`) or at the first one (`cut`). Cutting loses nothing:
`cut_eq_some_iff` says that the two parts with the separator between them are the text, and that
the first part is free of separators.
-/

namespace RouterTrial.Text

/-- The parts of a text between the separators `sep`; a text without a separator is one part. -/
def splitOn (sep : Char) : List Char → List (List Char)
  | [] => [[]]
  | c :: cs =>
    if c = sep then [] :: splitOn sep cs
    else
      match splitOn sep cs with
      | [] => [[c]]
      | part :: parts => (c :: part) :: parts

/-- The text before the first separator `sep` and the text behind it. -/
def cut (sep : Char) : List Char → Option (List Char × List Char)
  | [] => none
  | c :: cs =>
    if c = sep then some ([], cs) else (cut sep cs).map fun parts => (c :: parts.1, parts.2)

theorem splitOn_ne_nil (sep : Char) (cs : List Char) : splitOn sep cs ≠ [] := by
  cases cs with
  | nil => simp [splitOn]
  | cons c cs =>
    simp only [splitOn]
    split
    · simp
    · split <;> simp

theorem cut_eq_some_iff {sep : Char} {cs before behind : List Char} :
    cut sep cs = some (before, behind) ↔ cs = before ++ sep :: behind ∧ sep ∉ before := by
  induction cs generalizing before with
  | nil => simp [cut]
  | cons c cs ih =>
    simp only [cut]
    by_cases h : c = sep
    · subst h
      cases before with
      | nil => simp [eq_comm]
      | cons b bs =>
        simp only [if_true, List.cons_append, List.mem_cons, not_or]
        constructor
        · intro e; simp at e
        · rintro ⟨e, hb, -⟩
          simp only [List.cons.injEq] at e
          exact absurd e.1 hb
    · simp only [if_neg h, Option.map_eq_some_iff, Prod.mk.injEq]
      constructor
      · rintro ⟨⟨x, y⟩, hxy, rfl, rfl⟩
        obtain ⟨rfl, hx⟩ := ih.1 hxy
        exact ⟨rfl, by simpa using ⟨fun e => h e.symm, hx⟩⟩
      · rintro ⟨e, hb⟩
        cases before with
        | nil => simp only [List.nil_append, List.cons.injEq] at e; exact absurd e.1 h
        | cons b bs =>
          simp only [List.cons_append, List.cons.injEq] at e
          obtain ⟨rfl, rfl⟩ := e
          exact ⟨(bs, behind), ih.2 ⟨rfl, fun hm => hb (List.mem_cons_of_mem _ hm)⟩, rfl, rfl⟩

end RouterTrial.Text
