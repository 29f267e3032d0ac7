import Mathlib.Data.List.Forall2
import RouterTrial.Proofs.Text.Blank
import RouterTrial.Text.LowerCase

/-!
# Words in any letter case

A word of ASCII letters is recognised in the lower-case form of a text. The form of a character of
ASCII is ASCII, but not only that one: the kelvin sign has the form *k*, and the form of one other
character holds an *i*. Still, a form that is the word comes of a text that is the word but for the
case of its ASCII letters, as long as there is no *k* in the word: every other character of the text
leaves a trace in its form (`Lowers`), a *k* or a character that is not ASCII.

This holds of the complete lower-case form, whichever sigmas are taken for final ones
(`lowerCase_eq_iff`), and of the form that is compared with words (`map_lowerChar_eq_iff`).
-/

namespace RouterTrial.Text

/-- The texts `s` and `t` are the same but for the case of their ASCII letters. -/
def EqUpToCase (s t : String) : Prop := s.toList.map Char.toLower = t.toList.map Char.toLower

instance : DecidableRel EqUpToCase :=
  fun s t => inferInstanceAs (Decidable (s.toList.map Char.toLower = t.toList.map Char.toLower))

/-! ### Characters -/

theorem forall_ascii {p : Char → Prop} (h : ∀ n < 128, p (Char.ofNat n)) {c : Char}
    (hc : c.toNat < 128) : p c := by
  have hp := h c.toNat hc
  rwa [Char.ofNat_toNat] at hp

theorem toLower_of_not_ascii {c : Char} (h : 128 ≤ c.toNat) : c.toLower = c := by
  have hletter : ¬(c.val ≥ 'A'.val ∧ c.val ≤ 'Z'.val) := by
    rintro ⟨-, hle⟩
    have : c.toNat ≤ 90 := hle
    omega
  exact dif_neg hletter

/-- The form of the character `c`: that of a character of ASCII is the ASCII letter in lower case,
and any other one holds a *k* or a character that is not ASCII. -/
def Lowers (c : Char) (form : List Char) : Prop :=
  (c.toNat < 128 ∧ form = [c.toLower]) ∨
    (128 ≤ c.toNat ∧ ∃ d ∈ form, d = 'k' ∨ 128 ≤ d.toNat)

private theorem lowers_lowerChar (c : Char) : Lowers c [lowerChar c] := by
  rcases Nat.lt_or_ge c.toNat 128 with hc | hc
  · refine .inl ⟨hc, congrArg (fun d => [d]) ?_⟩
    exact forall_ascii (p := fun c => lowerChar c = c.toLower) (by decide) hc
  · refine .inr ⟨hc, lowerChar c, List.mem_singleton_self _, ?_⟩
    by_cases hkelvin : c = '\u212a'
    · exact .inl (if_pos hkelvin)
    · have hletter : ¬('A' ≤ c ∧ c ≤ 'Z') := by
        rintro ⟨-, hle⟩
        have : c.toNat ≤ 90 := hle
        omega
      rw [lowerChar, if_neg hkelvin, if_neg hletter]
      exact .inr hc

/-- Apart from the ASCII letters and from the kelvin sign, the forms in a `run` are characters, and
none of them is ASCII. -/
private theorem caseRuns_cases : ∀ run ∈ caseRuns,
    run.last < 128 ∨ run = ⟨0x212a, 0x212a, 1, 0x6b⟩ ∨
      (128 ≤ run.form ∧ (run.form + (run.last - run.first) < 0xd800 ∨
        0xdfff < run.form ∧ run.form + (run.last - run.first) < 0x110000)) := by
  decide +kernel

private theorem CaseRun.formOf_cases {run : CaseRun} (hrun : run ∈ caseRuns) {c : Char}
    (hmem : run.contains c = true) (hc : 128 ≤ c.toNat) :
    run.formOf c = 'k' ∨ 128 ≤ (run.formOf c).toNat := by
  simp only [contains, Bool.and_eq_true, decide_eq_true_eq, beq_iff_eq] at hmem
  obtain ⟨⟨hfirst, hlast⟩, -⟩ := hmem
  rcases caseRuns_cases run hrun with hascii | rfl | ⟨hform, hvalid⟩
  · omega
  · have hkelvin : c.toNat - 0x212a = 0 := Nat.sub_eq_zero_of_le hlast
    rw [formOf, hkelvin]
    exact .inl rfl
  · have hchar : (run.form + (c.toNat - run.first)).isValidChar := by
      rcases hvalid with hvalid | hvalid
      · exact .inl (by omega)
      · exact .inr (by omega)
    have hform' : (run.formOf c).toNat = run.form + (c.toNat - run.first) := by
      rw [formOf, Char.ofNat, dif_pos hchar]
      rfl
    exact .inr (by omega)

/-- Only the first run has characters of ASCII. -/
private theorem le_first_of_mem_tail : ∀ run ∈ caseRuns.tail, 128 ≤ run.first := by
  decide +kernel

private theorem lowerForm_of_ascii {c : Char} (hc : c.toNat < 128) : lowerForm c = [c.toLower] := by
  have htail : caseRuns.tail.find? (·.contains c) = none := by
    rw [List.find?_eq_none]
    intro run hrun hmem
    simp only [CaseRun.contains, Bool.and_eq_true, decide_eq_true_eq] at hmem
    have := le_first_of_mem_tail run hrun
    omega
  let letters : CaseRun := ⟨0x41, 0x5a, 1, 0x61⟩
  have hletter : (if letters.contains c then [letters.formOf c] else [c]) = [c.toLower] :=
    forall_ascii (p := fun c => (if letters.contains c then [letters.formOf c] else [c])
      = [c.toLower]) (by decide) hc
  have hne : c ≠ '\u0130' := by
    rintro rfl
    exact absurd hc (by decide)
  have hruns : caseRuns = letters :: caseRuns.tail := rfl
  rw [← hletter, lowerForm, if_neg hne, hruns, List.find?_cons]
  cases letters.contains c with
  | true => rfl
  | false => simp only [htail, Bool.false_eq_true, if_false]

private theorem lowers_lowerForm (c : Char) : Lowers c (lowerForm c) := by
  rcases Nat.lt_or_ge c.toNat 128 with hc | hc
  · exact .inl ⟨hc, lowerForm_of_ascii hc⟩
  · refine .inr ⟨hc, ?_⟩
    rw [lowerForm]
    split
    · exact ⟨'\u0307', by decide, by decide⟩
    · split
      · rename_i run hrun
        have hmem : run.contains c = true :=
          List.find?_some (p := fun run => CaseRun.contains run c) hrun
        have hcases := CaseRun.formOf_cases (List.mem_of_find?_eq_some hrun) hmem hc
        exact ⟨run.formOf c, List.mem_singleton_self _, hcases⟩
      · exact ⟨c, List.mem_singleton_self c, .inr hc⟩

private theorem lowers_lowerFormAt (endsWord : List Char → List Char → Bool) (before : List Char)
    (c : Char) (behind : List Char) : Lowers c (lowerFormAt endsWord before c behind) := by
  rw [lowerFormAt]
  split
  · rename_i hsigma
    rw [hsigma.1]
    exact .inr ⟨by decide, '\u03c2', List.mem_singleton_self _, by decide⟩
  · exact lowers_lowerForm c

/-! ### Words -/

/-- The `word` is of ASCII characters, without a *k*. -/
def Plain (word : List Char) : Prop := ∀ c ∈ word, c ≠ 'k' ∧ c.toNat < 128

instance : DecidablePred Plain := fun _ => List.decidableBAll _ _

/-- The form of the text `cs` is a `Plain` word exactly if the text is, but for the case of its
letters. -/
private theorem flatten_eq_iff_of_lowers {cs : List Char} {forms : List (List Char)}
    (h : List.Forall₂ Lowers cs forms) {word : List Char} (hword : Plain word) :
    forms.flatten = word ↔ cs.map Char.toLower = word := by
  induction h generalizing word with
  | nil => rfl
  | @cons c form cs forms hform _ ih =>
    rw [List.flatten_cons, List.map_cons]
    rcases hform with ⟨-, rfl⟩ | ⟨hc, d, hd, htrace⟩
    · cases word with
      | nil => exact iff_of_false nofun nofun
      | cons w word =>
        rw [List.singleton_append, List.cons.injEq, List.cons.injEq,
          ih fun c hc => hword c (List.mem_cons_of_mem w hc)]
    · -- neither side is a plain word: a trace is left in the form, and the character itself is none
      constructor
      · rintro rfl
        obtain ⟨hk, hascii⟩ := hword d (List.mem_append_left _ hd)
        rcases htrace with htrace | htrace
        · exact absurd htrace hk
        · omega
      · rintro rfl
        have hplain := (hword _ List.mem_cons_self).2
        rw [toLower_of_not_ascii hc] at hplain
        omega

theorem map_lowerChar_eq_iff {cs word : List Char} (hword : Plain word) :
    cs.map lowerChar = word ↔ cs.map Char.toLower = word := by
  have hforms : List.Forall₂ Lowers cs (cs.map fun c => [lowerChar c]) :=
    List.forall₂_map_right_iff.mpr (List.forall₂_same.mpr fun c _ => lowers_lowerChar c)
  rw [← flatten_eq_iff_of_lowers hforms hword, ← List.flatMap_def, ← List.map_eq_flatMap]

/-- The form of the text `cs` is made of the forms of its characters. -/
theorem exists_flatten_eq_lowerCase (endsWord : List Char → List Char → Bool)
    (before cs : List Char) :
    ∃ forms, List.Forall₂ Lowers cs forms ∧ forms.flatten = lowerCase endsWord before cs := by
  induction cs generalizing before with
  | nil => exact ⟨[], .nil, rfl⟩
  | cons c cs ih =>
    obtain ⟨forms, hforms, hflatten⟩ := ih (c :: before)
    refine ⟨_, .cons (lowers_lowerFormAt endsWord before c cs) hforms, ?_⟩
    rw [List.flatten_cons, hflatten, lowerCase]

theorem lowerCase_eq_iff {endsWord : List Char → List Char → Bool} {before cs word : List Char}
    (hword : Plain word) :
    lowerCase endsWord before cs = word ↔ cs.map Char.toLower = word := by
  obtain ⟨forms, hforms, hflatten⟩ := exists_flatten_eq_lowerCase endsWord before cs
  rw [← hflatten, flatten_eq_iff_of_lowers hforms hword]

/-- A plain `word` has no character that is not ASCII, in no case of its letters. -/
theorem EqUpToCase.lt_of_mem {s word : String} (h : EqUpToCase s word)
    (hword : Plain (word.toList.map Char.toLower)) {c : Char} (hc : c ∈ s.toList) :
    c.toNat < 128 := by
  by_contra hge
  have hmem : c.toLower ∈ word.toList.map Char.toLower := by
    rw [← h]
    exact List.mem_map_of_mem hc
  have hlt := (hword _ hmem).2
  rw [toLower_of_not_ascii (Nat.le_of_not_lt hge)] at hlt
  exact hge hlt

end RouterTrial.Text
