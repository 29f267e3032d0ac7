import RouterTrial.Number.Integer
import RouterTrial.Proofs.Text.Blank

/-!
# Integers and their texts

An integer is written by an optional sign and decimal digits, as many as one likes
(`Number.WritesInteger`), and what is read are the integers of 64 bits with these texts
(`Number.signed?_eq_some_iff`). The usual text of an integer is one of them
(`Number.writesInteger_toString`).
-/

namespace RouterTrial.Number

/-- The text `cs` is the number `n` in decimal digits, with an optional sign before them. -/
def WritesInteger (cs : List Char) (n : Int) : Prop :=
  ∃ digits : List Char, digits ≠ [] ∧ (∀ c ∈ digits, c.isDigit = true) ∧
    ((cs = digits ∨ cs = '+' :: digits) ∧ n = Nat.ofDigitChars 10 digits 0 ∨
      cs = '-' :: digits ∧ n = -(Nat.ofDigitChars 10 digits 0 : Int))

/-- The number `n` has 64 bits, one of them for the sign. -/
def FitsWord (n : Int) : Prop := -9223372036854775808 ≤ n ∧ n ≤ 9223372036854775807

instance : DecidablePred FitsWord :=
  fun n => inferInstanceAs (Decidable (-9223372036854775808 ≤ n ∧ n ≤ 9223372036854775807))

/-- There is nothing but digits and signs in a text that `WritesInteger`. -/
theorem WritesInteger.notMem {cs : List Char} {n : Int} (h : WritesInteger cs n) {c : Char}
    (hdigit : c.isDigit = false) (hplus : c ≠ '+') (hminus : c ≠ '-') : c ∉ cs := by
  obtain ⟨digits, -, hdigits, hcs⟩ := h
  have hnot : c ∉ digits := fun hc => Bool.false_ne_true (hdigit.symm.trans (hdigits c hc))
  rcases hcs with ⟨rfl | rfl, -⟩ | ⟨rfl, -⟩
  · exact hnot
  · exact List.not_mem_cons_of_ne_of_not_mem hplus hnot
  · exact List.not_mem_cons_of_ne_of_not_mem hminus hnot

/-- There is no white space in a text that `WritesInteger`. -/
theorem WritesInteger.isBlank_eq_false {cs : List Char} {n : Int} (h : WritesInteger cs n)
    {c : Char} (hc : c ∈ cs) : Text.isBlank c = false := by
  by_contra hblank
  rw [Bool.not_eq_false] at hblank
  refine h.notMem ?_ ?_ ?_ hc
  · rw [← Bool.not_eq_true]
    intro hdigit
    exact Bool.false_ne_true ((Text.isBlank_of_isDigit hdigit).symm.trans hblank)
  · rintro rfl
    cases hblank
  · rintro rfl
    cases hblank

/-! ### Reading -/

theorem natural?_eq_some_iff {cs : List Char} {n : Nat} :
    natural? cs = some n ↔
      cs ≠ [] ∧ (∀ c ∈ cs, c.isDigit = true) ∧ n = Nat.ofDigitChars 10 cs 0 := by
  have hread : (cs.isEmpty || !cs.all Char.isDigit) = false
      ↔ cs ≠ [] ∧ ∀ c ∈ cs, c.isDigit = true := by
    rw [Bool.or_eq_false_iff, Bool.not_eq_false', List.all_eq_true, List.isEmpty_eq_false_iff]
  have hdigits : ofDigits cs = Nat.ofDigitChars 10 cs 0 := rfl
  rw [natural?, hdigits, ← and_assoc, ← hread]
  cases cs.isEmpty || !cs.all Char.isDigit with
  | true => exact iff_of_false nofun nofun
  | false => exact ⟨fun h => ⟨rfl, (Option.some.inj h).symm⟩, fun h => congrArg some h.2.symm⟩

private theorem map_natural?_eq_some_iff {cs : List Char} {f : Int → Int} {n : Int} :
    (natural? cs >>= fun m => pure (m : Int)).map f = some n ↔
      cs ≠ [] ∧ (∀ c ∈ cs, c.isDigit = true) ∧ n = f (Nat.ofDigitChars 10 cs 0) := by
  simp only [Option.map_eq_some_iff, Option.bind_eq_bind, Option.bind_eq_some_iff,
    natural?_eq_some_iff, Option.pure_def, Option.some.injEq]
  constructor
  · rintro ⟨_, ⟨m, ⟨hne, hdigits, rfl⟩, rfl⟩, rfl⟩
    exact ⟨hne, hdigits, rfl⟩
  · rintro ⟨hne, hdigits, rfl⟩
    exact ⟨_, ⟨_, ⟨hne, hdigits, rfl⟩, rfl⟩, rfl⟩

theorem integer?_eq_some_iff {cs : List Char} {n : Int} :
    integer? cs = some n ↔ WritesInteger cs n := by
  constructor
  · intro h
    unfold integer? at h
    split at h
    · obtain ⟨hne, hdigits, hn⟩ := map_natural?_eq_some_iff.mp h
      exact ⟨_, hne, hdigits, .inr ⟨rfl, hn⟩⟩
    · obtain ⟨hne, hdigits, hn⟩ := map_natural?_eq_some_iff.mp h
      exact ⟨_, hne, hdigits, .inl ⟨.inr rfl, hn⟩⟩
    · obtain ⟨hne, hdigits, hn⟩ := map_natural?_eq_some_iff.mp h
      exact ⟨_, hne, hdigits, .inl ⟨.inl rfl, hn⟩⟩
  · rintro ⟨digits, hne, hdigits, ⟨rfl | rfl, hn⟩ | ⟨rfl, hn⟩⟩
    · -- the first character is a digit, so none of the signs
      unfold integer?
      split
      · exact absurd (hdigits '-' List.mem_cons_self) (by decide)
      · exact absurd (hdigits '+' List.mem_cons_self) (by decide)
      · exact map_natural?_eq_some_iff.mpr ⟨hne, hdigits, hn⟩
    · exact map_natural?_eq_some_iff.mpr ⟨hne, hdigits, hn⟩
    · exact map_natural?_eq_some_iff.mpr ⟨hne, hdigits, hn⟩

theorem signed?_eq_some_iff {s : String} {n : Int} :
    signed? s = some n ↔ WritesInteger s.toList n ∧ FitsWord n := by
  rw [signed?, Option.filter_eq_some_iff, integer?_eq_some_iff, decide_eq_true_iff, FitsWord,
    minSigned, maxSigned]

/-! ### Writing -/

/-- The usual text of the integer `n` is one of its texts. -/
theorem writesInteger_toString (n : Int) : WritesInteger (toString n).toList n := by
  have hdigits : ∀ m, ∀ c ∈ Nat.toDigits 10 m, c.isDigit = true :=
    fun m c hc => Nat.isDigit_of_mem_toDigits (by decide) (by decide) hc
  cases n with
  | ofNat m =>
    refine ⟨Nat.toDigits 10 m, Nat.toDigits_ne_nil, hdigits m, .inl ⟨.inl ?_, ?_⟩⟩
    · exact Nat.toList_repr
    · rw [Nat.ofDigitChars_ten_toDigits, Int.ofNat_eq_natCast]
  | negSucc m =>
    refine ⟨Nat.toDigits 10 (m + 1), Nat.toDigits_ne_nil, hdigits (m + 1), .inr ⟨?_, ?_⟩⟩
    · have htext : toString (Int.negSucc m) = "-" ++ (m + 1).repr := rfl
      rw [htext, String.toList_append, Nat.toList_repr]
      rfl
    · rw [Nat.ofDigitChars_ten_toDigits, Int.negSucc_eq]
      rfl

end RouterTrial.Number
