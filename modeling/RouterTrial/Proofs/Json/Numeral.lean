import Mathlib.Data.List.DropRight
import RouterTrial.Json.Printer
import RouterTrial.Json.Reader

/-!
# Numerals in texts

Every number that is written stands in its text as a numeral: `Numeral.ofInt` for an integer and
`Numeral.ofFloat` for a double. Such numerals are well formed (`Numeral.Proper`), the text that is
written is the text of the numeral (`text_ofInt`, `text_ofFloat`), and a well-formed numeral is read
back from its text whatever stands behind it, as long as that does not go on with the numeral
(`readNumeral_text`).

An integer of 64 bits has itself as its value (`value?_ofInt`). Nothing is said here of how close a
double comes to the one that it was written for.
-/

namespace RouterTrial.Json

/-! ### What stands behind a value -/

/-- The text behind a value, `rest`, is at its end, or goes on with white space, a comma or a
closing bracket. -/
def Closes (rest : List Char) : Prop :=
  ∀ c ∈ rest.head?, isSpace c = true ∨ c = ',' ∨ c = ']' ∨ c = '}'

theorem closes_nil : Closes [] := nofun

theorem closes_cons {c : Char} {cs : List Char}
    (h : isSpace c = true ∨ c = ',' ∨ c = ']' ∨ c = '}') : Closes (c :: cs) := by
  rintro _ ⟨⟩
  exact h

/-- The text that `Closes` a value does not start with anything that a numeral could go on with. -/
private theorem Closes.head?_ne {rest : List Char} (h : Closes rest) :
    ∀ c ∈ rest.head?, c.isDigit = false ∧ c ≠ '.' ∧ c ≠ 'e' ∧ c ≠ 'E' := by
  intro c hc
  have hcase : (c = ' ' ∨ c = '\t' ∨ c = '\n' ∨ c = '\r') ∨ c = ',' ∨ c = ']' ∨ c = '}' := by
    simpa [isSpace, or_assoc] using h c hc
  rcases hcase with (rfl | rfl | rfl | rfl) | rfl | rfl | rfl <;> decide

/-! ### Digits -/

/-- The `digits` are read up to a text that does not start with one. -/
private theorem readDigits_append {digits rest : List Char} (hne : digits ≠ [])
    (hdigits : ∀ c ∈ digits, c.isDigit = true) (hrest : ∀ c ∈ rest.head?, c.isDigit = false) :
    readDigits (digits ++ rest) = some (digits, rest) := by
  have htake : rest.takeWhile Char.isDigit = [] := by
    cases rest with
    | nil => rfl
    | cons c cs => simp [hrest c rfl]
  have hdrop : rest.dropWhile Char.isDigit = rest := by
    cases rest with
    | nil => rfl
    | cons c cs => simp [hrest c rfl]
  obtain ⟨d, ds, rfl⟩ := List.exists_cons_of_ne_nil hne
  rw [readDigits, List.takeWhile_append_of_pos hdigits, List.dropWhile_append_of_pos hdigits, htake,
    hdrop, List.append_nil]

private theorem isDigit_toDigits {n : Nat} {c : Char} (h : c ∈ Nat.toDigits 10 n) :
    c.isDigit = true :=
  Nat.isDigit_of_mem_toDigits (by decide) (by decide) h

/-- The decimal digits of a number `n` that is not zero do not start with a zero. -/
private theorem head?_toDigits_ne {n : Nat} (h : 0 < n) : (Nat.toDigits 10 n).head? ≠ some '0' := by
  induction n using Nat.strongRecOn with
  | ind n ih =>
    by_cases hlt : n < 10
    · rw [Nat.toDigits_of_lt_base hlt]
      simpa [Nat.digitChar_eq_zero] using h.ne'
    · rw [Nat.toDigits_of_base_le (by decide) (not_lt.mp hlt),
        List.head?_append_of_ne_nil _ Nat.toDigits_ne_nil]
      exact ih (n / 10) (by omega) (by omega)

/-! ### The text of a numeral -/

namespace Numeral

/-- The point and the digits behind it, if there are any. -/
def fractionText : List Char → List Char
  | [] => []
  | digits => '.' :: digits

/-- An exponent with its sign, if there is one. -/
def exponentText : Option Int → List Char
  | none => []
  | some e => 'e' :: (if e < 0 then '-' else '+') :: Nat.toDigits 10 e.natAbs

/-- The text of the numeral `n`. -/
def text (n : Numeral) : List Char :=
  (if n.negative then ['-'] else [])
    ++ (n.whole ++ (fractionText n.fraction ++ exponentText n.exponent))

/-- The numeral `n` has digits before the point and no zero in front of them. -/
structure Proper (n : Numeral) : Prop where
  ne_nil : n.whole ≠ []
  digits : (∀ c ∈ n.whole, c.isDigit = true) ∧ ∀ c ∈ n.fraction, c.isDigit = true
  leading : n.whole.head? = some '0' → n.whole = ['0']

section Reading

variable {rest : List Char}

private theorem head?_exponentText (exponent : Option Int) (hrest : Closes rest) :
    ∀ c ∈ (exponentText exponent ++ rest).head?, c.isDigit = false ∧ c ≠ '.' := by
  cases exponent with
  | none => exact fun c hc => ⟨(hrest.head?_ne c hc).1, (hrest.head?_ne c hc).2.1⟩
  | some e =>
    rintro _ ⟨⟩
    decide

private theorem head?_fractionText (fraction : List Char) (exponent : Option Int)
    (hrest : Closes rest) :
    ∀ c ∈ (fractionText fraction ++ (exponentText exponent ++ rest)).head?, c.isDigit = false := by
  cases fraction with
  | nil => exact fun c hc => (head?_exponentText exponent hrest c hc).1
  | cons d ds =>
    rintro _ ⟨⟩
    decide

private theorem readExponent_text (exponent : Option Int) (hrest : Closes rest) :
    readExponent (exponentText exponent ++ rest) = some (exponent, rest) := by
  cases exponent with
  | none =>
    cases rest with
    | nil => rfl
    | cons c cs =>
      obtain ⟨-, -, he, hE⟩ := hrest.head?_ne c rfl
      simp [exponentText, readExponent, he, hE]
  | some e =>
    have hdigits : readDigits (Nat.toDigits 10 e.natAbs ++ rest)
        = some (Nat.toDigits 10 e.natAbs, rest) :=
      readDigits_append Nat.toDigits_ne_nil (fun _ => isDigit_toDigits)
        fun c hc => (hrest.head?_ne c hc).1
    have hvalue : Number.ofDigits (Nat.toDigits 10 e.natAbs) = e.natAbs :=
      Nat.ofDigitChars_ten_toDigits
    rw [exponentText]
    by_cases he : e < 0
    · have habs : -(e.natAbs : Int) = e := by omega
      generalize e.natAbs = k at *
      simp [readExponent, he, hdigits, hvalue, habs]
    · have habs : (e.natAbs : Int) = e := by omega
      generalize e.natAbs = k at *
      simp [readExponent, he, hdigits, hvalue, habs]

private theorem readFraction_text {fraction : List Char} (exponent : Option Int)
    (hdigits : ∀ c ∈ fraction, c.isDigit = true) (hrest : Closes rest) :
    readFraction (fractionText fraction ++ (exponentText exponent ++ rest))
      = some (fraction, exponentText exponent ++ rest) := by
  have hhead := head?_exponentText exponent hrest
  cases fraction with
  | nil =>
    rw [fractionText, List.nil_append]
    generalize exponentText exponent ++ rest = cs at hhead
    cases cs with
    | nil => rfl
    | cons c cs => simp [readFraction, (hhead c rfl).2]
  | cons d ds =>
    rw [fractionText, List.cons_append, readFraction]
    · exact readDigits_append (List.cons_ne_nil d ds) hdigits fun c hc => (hhead c hc).1
    · nofun

/-- A `Proper` numeral is read back from its text. -/
theorem readNumeral_text {n : Numeral} (h : n.Proper) (hrest : Closes rest) :
    readNumeral (n.text ++ rest) = some (n, rest) := by
  obtain ⟨negative, whole, fraction, exponent⟩ := n
  obtain ⟨hne, ⟨hwhole, hfraction⟩, hleading⟩ := h
  obtain ⟨d, ds, rfl⟩ := List.exists_cons_of_ne_nil hne
  have hreadWhole : ∀ cs : List Char, (∀ c ∈ cs.head?, c.isDigit = false) →
      readWhole (d :: ds ++ cs) = some (d :: ds, cs) := by
    intro cs hcs
    by_cases hzero : d = '0'
    · subst hzero
      obtain rfl : ds = [] := List.cons_inj_right _ |>.mp (hleading rfl)
      rfl
    · rw [List.cons_append, readWhole]
      · exact readDigits_append hne hwhole hcs
      · simpa using hzero
  have hunsigned : readUnsigned negative
      (d :: ds ++ (fractionText fraction ++ (exponentText exponent ++ rest)))
        = some (⟨negative, d :: ds, fraction, exponent⟩, rest) := by
    rw [readUnsigned, hreadWhole _ (head?_fractionText fraction exponent hrest), Option.bind_some,
      readFraction_text exponent hfraction hrest, Option.bind_some,
      readExponent_text exponent hrest, Option.map_some]
  cases negative with
  | true => simpa [text, readNumeral] using hunsigned
  | false =>
    have hd : d ≠ '-' := by
      rintro rfl
      exact absurd (hwhole '-' List.mem_cons_self) (by decide)
    simp only [text, List.append_assoc, List.cons_append] at hunsigned ⊢
    simpa [readNumeral, hd] using hunsigned

end Reading

/-! ### Integers -/

/-- The numeral of the integer `n`. -/
def ofInt (n : Int) : Numeral := ⟨n < 0, Nat.toDigits 10 n.natAbs, [], none⟩

theorem text_ofInt (n : Int) : (ofInt n).text = writeInt n := by
  rw [text, ofInt, writeInt, fractionText, exponentText]
  by_cases h : n < 0 <;> simp [h]

theorem proper_ofInt (n : Int) : (ofInt n).Proper where
  ne_nil := Nat.toDigits_ne_nil
  digits := ⟨fun _ => isDigit_toDigits, nofun⟩
  leading := by
    rw [ofInt]
    intro hhead
    rcases Nat.eq_zero_or_pos n.natAbs with hzero | hpos
    · rw [hzero, Nat.toDigits_zero]
    · exact absurd hhead (head?_toDigits_ne hpos)

/-- The value of the integer `n` of 64 bits, with a sign or without, is the integer. -/
theorem value?_ofInt {n : Int} (h : Number.minSigned ≤ n ∧ n ≤ Number.maxUnsigned) :
    (ofInt n).value? = some (.int n) := by
  have hvalue : Number.ofDigits (Nat.toDigits 10 n.natAbs) = n.natAbs :=
    Nat.ofDigitChars_ten_toDigits
  unfold Number.minSigned Number.maxUnsigned at h
  simp only [value?, ofInt, isInteger, hvalue, List.isEmpty_nil, Option.isNone_none, Bool.and_self,
    if_true, decide_eq_true_eq]
  by_cases hneg : n < 0
  · have habs : -(n.natAbs : Int) = n := by omega
    rw [if_pos hneg, habs, if_pos ⟨by omega, h.1⟩]
  · have habs : (n.natAbs : Int) = n := by omega
    rw [if_neg hneg, habs, if_pos (by unfold Number.maxUnsigned; omega)]

theorem ofInt_injective : Function.Injective ofInt := by
  intro n k h
  obtain ⟨hsign, hdigits, -, -⟩ := Numeral.mk.inj h
  have habs : n.natAbs = k.natAbs := by
    rw [← Nat.ofDigitChars_ten_toDigits (n := n.natAbs), hdigits, Nat.ofDigitChars_ten_toDigits]
  have hneg : n < 0 ↔ k < 0 := decide_eq_decide.mp hsign
  omega

/-! ### Doubles -/

open Number (Decimal DecimalLayout Interval zeros hiddenBit)

/-- The digits of the decimal `d` can stand in a numeral, or it is the zero without any digits. -/
def Sound (d : Decimal) : Prop :=
  d = ⟨[], 0⟩ ∨
    d.digits ≠ [] ∧ (∀ c ∈ d.digits, c.isDigit = true) ∧ d.digits.head? ≠ some '0'

/-- The numeral of the decimal `d` with the point in its place. -/
def ofPositional (negative : Bool) (d : Decimal) : Numeral :=
  if d.exponent < 0 then ⟨negative, ['0'], zeros ((-d.exponent).toNat - 1) ++ d.digits, none⟩
  else if d.digits.length ≤ d.exponent.toNat + 1 then
    ⟨negative, d.digits ++ zeros (d.exponent.toNat + 1 - d.digits.length), ['0'], none⟩
  else
    ⟨negative, d.digits.take (d.exponent.toNat + 1), d.digits.drop (d.exponent.toNat + 1), none⟩

/-- The numeral of the decimal `d` in the layout `l`. -/
def ofDecimal (l : DecimalLayout) (negative : Bool) (d : Decimal) : Numeral :=
  if l.least ≤ d.exponent ∧ d.exponent < l.bound then ofPositional negative d
  else ⟨negative, d.digits.take 1, d.digits.drop 1, some d.exponent⟩

/-- The numeral of the finite double `x`. -/
def ofFloat (x : Float) : Numeral :=
  let n := x.toBits.toNat
  let fraction := n % hiddenBit
  let exponent := n / hiddenBit % 2048
  let negative : Bool := n / hiddenBit / 2048 = 1
  if exponent = 0 ∧ fraction = 0 then ⟨negative, ['0'], ['0'], none⟩
  else ofDecimal floatLayout negative (Interval.ofFields exponent fraction).shortest

private theorem fractionText_of_ne_nil {digits : List Char} (h : digits ≠ []) :
    fractionText digits = '.' :: digits := by
  obtain ⟨d, ds, rfl⟩ := List.exists_cons_of_ne_nil h
  rfl

private theorem isDigit_of_mem_zeros {k : Nat} {c : Char} (h : c ∈ zeros k) : c.isDigit = true := by
  rw [List.eq_of_mem_replicate h]
  decide

theorem Sound.ne_nil {d : Decimal} (h : Sound d) (hexponent : d.exponent ≠ 0) :
    d.digits ≠ [] := by
  rcases h with rfl | ⟨hne, -, -⟩
  · exact absurd rfl hexponent
  · exact hne

private theorem text_ofPositional (negative : Bool) {d : Decimal} (hd : Sound d) :
    (ofPositional negative d).text = (if negative then ['-'] else []) ++ d.positional := by
  rw [ofPositional]
  by_cases hneg : d.exponent < 0
  · have hfraction : zeros ((-d.exponent).toNat - 1) ++ d.digits ≠ [] :=
      List.append_ne_nil_of_right_ne_nil _ (hd.ne_nil (by omega))
    simp [text, Decimal.positional, hneg, fractionText_of_ne_nil hfraction, exponentText]
  by_cases hshort : d.digits.length ≤ d.exponent.toNat + 1
  · simp [text, Decimal.positional, hneg, hshort, fractionText, exponentText]
  · have hfraction : d.digits.drop (d.exponent.toNat + 1) ≠ [] := by
      rw [ne_eq, List.drop_eq_nil_iff]
      exact hshort
    simp [text, Decimal.positional, hneg, hshort, fractionText_of_ne_nil hfraction, exponentText]

private theorem text_ofDecimal {l : DecimalLayout} (hl : l.least ≤ 0 ∧ 0 < l.bound)
    (negative : Bool) {d : Decimal} (hd : Sound d) :
    (ofDecimal l negative d).text = (if negative then ['-'] else []) ++ l.write d := by
  rw [ofDecimal, DecimalLayout.write]
  by_cases hrange : l.least ≤ d.exponent ∧ d.exponent < l.bound
  · rw [if_pos hrange, if_pos hrange, text_ofPositional negative hd]
  · have hexponent : d.exponent ≠ 0 := fun h => hrange (h.symm ▸ hl)
    obtain ⟨first, rest, hdigits⟩ := List.exists_cons_of_ne_nil (hd.ne_nil hexponent)
    rw [if_neg hrange, if_neg hrange]
    cases rest <;> simp [text, Decimal.scientific, hdigits, fractionText, exponentText]

private theorem proper_ofDecimal {l : DecimalLayout} (hl : l.least ≤ 0 ∧ 0 < l.bound)
    (negative : Bool) {d : Decimal} (hd : Sound d) : (ofDecimal l negative d).Proper := by
  rcases hd with rfl | ⟨hne, hdigits, hhead⟩
  · rw [ofDecimal, if_pos hl]
    exact ⟨List.cons_ne_nil _ _, ⟨by simp [ofPositional, zeros], by simp [ofPositional]⟩,
      fun _ => rfl⟩
  have htake : ∀ k, ∀ c ∈ d.digits.take k, c.isDigit = true :=
    fun k c hc => hdigits c (List.mem_of_mem_take hc)
  have hdrop : ∀ k, ∀ c ∈ d.digits.drop k, c.isDigit = true :=
    fun k c hc => hdigits c (List.mem_of_mem_drop hc)
  have hzeros : ∀ k, ∀ c ∈ zeros k, c.isDigit = true := fun k c => isDigit_of_mem_zeros
  obtain ⟨first, rest, hfirst⟩ := List.exists_cons_of_ne_nil hne
  have hleading : first ≠ '0' := by
    rintro rfl
    exact hhead (by rw [hfirst, List.head?_cons])
  rw [ofDecimal, ofPositional]
  split_ifs
  · exact ⟨List.cons_ne_nil _ _,
      ⟨by simp, List.forall_mem_append.mpr ⟨hzeros _, hdigits⟩⟩, fun _ => rfl⟩
  · exact ⟨List.append_ne_nil_of_left_ne_nil hne _,
      ⟨List.forall_mem_append.mpr ⟨hdigits, hzeros _⟩, by simp⟩, by simp [hfirst, hleading]⟩
  · exact ⟨by simp [hne], ⟨htake _, hdrop _⟩, by simp [hfirst, hleading]⟩
  · exact ⟨by simp [hne], ⟨htake _, hdrop _⟩, by simp [hfirst, hleading]⟩

/-- Zeros at the end of `n` can be left out. -/
private theorem sound_ofScaled {n : Nat} (hn : 0 < n) (k : Int) : Sound (Decimal.ofScaled n k) := by
  have hpre := List.rdropWhile_prefix (· == '0') (l := Nat.toDigits 10 n)
  have hhead := head?_toDigits_ne hn
  -- not all digits are zeros, as the first one is none
  have hne : List.rdropWhile (· == '0') (Nat.toDigits 10 n) ≠ [] := by
    rw [ne_eq, List.rdropWhile_eq_nil_iff]
    intro hall
    obtain ⟨c, cs, hcs⟩ := List.exists_cons_of_ne_nil (Nat.toDigits_ne_nil (n := n) (b := 10))
    rw [hcs] at hall hhead
    exact hhead (congrArg some (eq_of_beq (hall c List.mem_cons_self)))
  refine .inr ⟨hne, fun c hc => isDigit_toDigits (hpre.mem hc), ?_⟩
  rw [Decimal.ofScaled]
  obtain ⟨c, cs, hcs⟩ := List.exists_cons_of_ne_nil hne
  obtain ⟨tail, htail⟩ := hpre
  rw [← htail, hcs] at hhead
  change (List.rdropWhile (· == '0') (Nat.toDigits 10 n)).head? ≠ some '0'
  rw [hcs]
  exact hhead

private theorem low_pos_ofFields {exponent fraction : Nat} (h : ¬(exponent = 0 ∧ fraction = 0)) :
    0 < (Interval.ofFields exponent fraction).low := by
  have hmantissa : 0 < if exponent = 0 then fraction else fraction + hiddenBit := by
    split_ifs with hexponent
    · exact Nat.pos_of_ne_zero fun hfraction => h ⟨hexponent, hfraction⟩
    · exact Nat.add_pos_right fraction (by decide)
  have hlow : ∀ mantissa below up : Nat, 0 < mantissa → below ≤ 2 →
      0 < (4 * mantissa - below) <<< up := by
    intro mantissa below up hpos hbelow
    rw [Nat.shiftLeft_eq]
    exact Nat.mul_pos (by omega) (Nat.two_pow_pos up)
  exact hlow _ _ _ hmantissa (by split <;> decide)

/-- The integer that `Interval.nearest?` finds nearest to a positive double is positive. -/
private theorem pos_of_nearest? {i : Interval} (hlow : 0 < i.low) {n : Nat}
    (h : i.nearest? = some n) : 0 < n := by
  have hzero : i.contains 0 = false := by
    unfold Interval.contains
    split <;> simp [hlow.not_ge]
  have hcontains : i.contains n = true := by
    simp only [Interval.nearest?] at h
    split at h
    · split_ifs at h <;> simp_all
    · simp_all
    · simp_all
    · cases h
  refine Nat.pos_of_ne_zero ?_
  rintro rfl
  exact Bool.noConfusion (hzero.symm.trans hcontains)

private theorem low_pos_shift {i : Interval} (h : 0 < i.low) (k : Int) : 0 < (i.shift k).low := by
  unfold Interval.shift
  split
  · exact h
  · exact Nat.mul_pos h (Nat.pow_pos (by decide))

private theorem sound_search {i : Interval} (h : 0 < i.low) (count tries : Nat) :
    Sound (i.search count tries) := by
  induction tries generalizing count with
  | zero => exact .inl rfl
  | succ tries ih =>
    rw [Interval.search]
    split
    · rename_i n hn
      exact sound_ofScaled (pos_of_nearest? (low_pos_shift h _) hn) _
    · exact ih (count + 1)

private theorem sound_shortest {exponent fraction : Nat} (h : ¬(exponent = 0 ∧ fraction = 0)) :
    Sound (Interval.ofFields exponent fraction).shortest :=
  sound_search (low_pos_ofFields h) 1 17

private theorem floatLayout_spans : floatLayout.least ≤ 0 ∧ 0 < floatLayout.bound := by decide

theorem text_ofFloat (x : Float) : (ofFloat x).text = floatLayout.ofBits x.toBits := by
  simp only [ofFloat, DecimalLayout.ofBits]
  split_ifs with hzero hneg hneg
  · simp [text, hneg, fractionText, exponentText]
  · simp [text, hneg, fractionText, exponentText]
  · simp [text_ofDecimal floatLayout_spans _ (sound_shortest hzero), hneg]
  · simp [text_ofDecimal floatLayout_spans _ (sound_shortest hzero), hneg]

theorem proper_ofFloat (x : Float) : (ofFloat x).Proper := by
  simp only [ofFloat]
  split_ifs with hzero
  · exact ⟨List.cons_ne_nil _ _, ⟨by simp, by simp⟩, fun _ => rfl⟩
  · exact proper_ofDecimal floatLayout_spans _ (sound_shortest hzero)

end Numeral

end RouterTrial.Json
