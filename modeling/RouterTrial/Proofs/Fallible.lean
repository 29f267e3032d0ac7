/-!
# Computations that may fail

A computation that is made of others succeeds exactly if each of them does (`bind_eq_ok_iff`,
`map_eq_ok_iff`, `foldlM_cons_eq_ok_iff`). What every step of a loop keeps holds behind the loop
(`foldlM_preserves`), and a loop whose steps all succeed does so itself (`exists_foldlM_eq_ok`).
-/

namespace RouterTrial

variable {ε α β : Type}

theorem ok_bind (a : α) (f : α → Except ε β) : (.ok a >>= f) = f a := rfl

theorem bind_eq_ok_iff {x : Except ε α} {f : α → Except ε β} {b : β} :
    (x >>= f) = .ok b ↔ ∃ a, x = .ok a ∧ f a = .ok b := by
  cases x with
  | error e => exact ⟨nofun, nofun⟩
  | ok a =>
    refine ⟨fun h => ⟨a, rfl, h⟩, fun ⟨a', h, hf⟩ => ?_⟩
    obtain rfl := Except.ok.inj h
    exact hf

theorem map_eq_ok_iff {x : Except ε α} {f : α → β} {b : β} :
    x.map f = .ok b ↔ ∃ a, x = .ok a ∧ f a = b := by
  cases x with
  | error e => exact ⟨nofun, nofun⟩
  | ok a =>
    refine ⟨fun h => ⟨a, rfl, Except.ok.inj h⟩, fun ⟨a', h, hf⟩ => ?_⟩
    obtain rfl := Except.ok.inj h
    exact congrArg Except.ok hf

section Loops

variable {f : β → α → Except ε β} {l : List α} {a : α} {b b' : β}

theorem foldlM_cons_eq_ok_iff :
    (a :: l).foldlM f b = .ok b' ↔ ∃ middle, f b a = .ok middle ∧ l.foldlM f middle = .ok b' := by
  rw [List.foldlM_cons, bind_eq_ok_iff]

/-- If every step of a loop keeps `P`, so does the loop. -/
theorem foldlM_preserves {P : β → Prop} (hstep : ∀ {b a b'}, P b → f b a = .ok b' → P b')
    (hb : P b) (h : l.foldlM f b = .ok b') : P b' := by
  induction l generalizing b with
  | nil =>
    obtain rfl := Except.ok.inj h
    exact hb
  | cons a rest ih =>
    obtain ⟨middle, hmiddle, hrest⟩ := foldlM_cons_eq_ok_iff.mp h
    exact ih (hstep hb hmiddle) hrest

/-- If every step of a loop succeeds from everywhere, so does the loop. -/
theorem exists_foldlM_eq_ok (h : ∀ a ∈ l, ∀ b, ∃ b', f b a = .ok b') (b : β) :
    ∃ b', l.foldlM f b = .ok b' := by
  induction l generalizing b with
  | nil => exact ⟨b, rfl⟩
  | cons a rest ih =>
    obtain ⟨middle, hmiddle⟩ := h a List.mem_cons_self b
    obtain ⟨b', hb'⟩ := ih (fun other hother => h other (List.mem_cons_of_mem a hother)) middle
    exact ⟨b', foldlM_cons_eq_ok_iff.mpr ⟨middle, hmiddle, hb'⟩⟩

end Loops

end RouterTrial
