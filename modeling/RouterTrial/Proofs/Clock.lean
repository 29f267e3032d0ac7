import Mathlib.Algebra.Ring.Nat
import Mathlib.Data.List.Basic
import Mathlib.Data.Set.Function
import Mathlib.Order.Monotone.Basic
import Mathlib.Order.Nat
import RouterTrial.Clock
import RouterTrial.Proofs.Attempt

/-!
# Instants and their texts

Instants of the calendar with the same text are the same (`Instant.writeZulu_injOn`). Every number
in the text of an instant ends where something that is no digit follows, so the text gives the date
and the time of day; the number of a day can be worked out of its date (`Date.days_ofDays`), and a
second with the number 60 is only ever a leap second.
-/

namespace RouterTrial

/-! ### Dates -/

/-- The days of a cycle before its year `year`. -/
def daysBeforeYear (year : Nat) : Nat := 365 * year + year / 4 - year / 100

private theorem monotone_yearOfCycle : Monotone yearOfCycle := by
  refine monotone_nat_of_le_succ fun d => ?_
  unfold yearOfCycle
  omega

private theorem yearOfCycle_lt {d : Nat} (h : d < daysPerCycle) : yearOfCycle d < 400 := by
  unfold daysPerCycle at h
  unfold yearOfCycle
  omega

/-- The day before a year lies in the year before it, and the day after the longest year in a later
one. The years are those of `yearOfCycle`. -/
private theorem yearOfCycle_bounds : ∀ y < 400,
    yearOfCycle (daysBeforeYear (y + 1) - 1) = y ∧ y < yearOfCycle (daysBeforeYear y + 366) := by
  decide +kernel

/-- The day `d` of a cycle lies in its year. -/
private theorem day_mem_yearOfCycle {d : Nat} (h : d < daysPerCycle) :
    daysBeforeYear (yearOfCycle d) ≤ d ∧ d ≤ daysBeforeYear (yearOfCycle d) + 365 := by
  have hyear := yearOfCycle_lt h
  generalize hy : yearOfCycle d = y at hyear
  constructor
  · by_contra hlt
    obtain _ | y := y
    · exact hlt (Nat.zero_le d)
    · have hle : d ≤ daysBeforeYear (y + 1) - 1 := by omega
      have hmono := monotone_yearOfCycle hle
      rw [hy, (yearOfCycle_bounds y (by omega)).1] at hmono
      omega
  · by_contra hlt
    have hle : daysBeforeYear y + 366 ≤ d := by omega
    have hmono := monotone_yearOfCycle hle
    have hlater := (yearOfCycle_bounds y hyear).2
    omega

/-- The days from the first of January 1970 to the date `t`. -/
def Date.days (t : Date) : Int :=
  -- the year that starts in March, and the months since then
  let year := if t.month ≤ 2 then t.year - 1 else t.year
  let month := if t.month ≤ 2 then t.month + 9 else t.month - 3
  year / 400 * daysPerCycle + daysBeforeYear (year % 400).toNat + ((153 * month + 2) / 5 : Nat)
    + t.day - 1 - daysBeforeEpoch

/-- The number `n` of a day can be worked out of its date. -/
theorem Date.days_ofDays (n : Int) : (ofDays n).days = n := by
  -- within a cycle of 400 years a day has its year, and within this year its month
  generalize hcycle : (n + daysBeforeEpoch) / daysPerCycle = cycle
  generalize hday : ((n + daysBeforeEpoch) % daysPerCycle).toNat = d
  have hn : n = cycle * daysPerCycle + d - daysBeforeEpoch := by
    unfold daysPerCycle at *
    omega
  have hlt : d < daysPerCycle := by
    unfold daysPerCycle at *
    omega
  have hyear := yearOfCycle_lt hlt
  obtain ⟨hfirst, hlast⟩ := day_mem_yearOfCycle hlt
  simp only [ofDays, hcycle, hday]
  rw [← daysBeforeYear]
  generalize yearOfCycle d = y at *
  generalize hmonth : (5 * (d - daysBeforeYear y) + 2) / 153 = m
  have hm : m ≤ 11 := by omega
  by_cases hspring : m < 10
  · rw [if_pos hspring]
    have hquot : ((y : Int) + 400 * cycle) / 400 = cycle := by omega
    have hrem : (((y : Int) + 400 * cycle) % 400).toNat = y := by omega
    have hmonth' : ¬ m + 3 ≤ 2 := by omega
    simp only [days, if_neg hmonth', hquot, hrem, Nat.add_sub_cancel]
    omega
  · rw [if_neg hspring]
    have hquot : ((y : Int) + 400 * cycle + 1 - 1) / 400 = cycle := by omega
    have hrem : (((y : Int) + 400 * cycle + 1 - 1) % 400).toNat = y := by omega
    have hmonth' : m - 9 ≤ 2 := by omega
    have hback : m - 9 + 9 = m := by omega
    simp only [days, if_pos hmonth', hquot, hrem, hback]
    omega

private theorem Date.ofDays_injective : Function.Injective ofDays :=
  Function.LeftInverse.injective days_ofDays

/-! ### Digits in texts -/

namespace Text

/-- A text splits where the first character stands that is not of the kind `p`. -/
private theorem append_inj_of_head {p : Char → Bool} {cs cs' rest rest' : List Char}
    (hcs : ∀ c ∈ cs, p c = true) (hcs' : ∀ c ∈ cs', p c = true)
    (hrest : ∀ c ∈ rest.head?, p c = false) (hrest' : ∀ c ∈ rest'.head?, p c = false)
    (h : cs ++ rest = cs' ++ rest') : cs = cs' ∧ rest = rest' := by
  have htake : ∀ {rest : List Char}, (∀ c ∈ rest.head?, p c = false) →
      rest.takeWhile p = [] := by
    intro rest hrest
    cases rest with
    | nil => rfl
    | cons c cs => simp [hrest c rfl]
  have hfront : cs = cs' := by
    have h := congrArg (List.takeWhile p) h
    rwa [List.takeWhile_append_of_pos hcs, List.takeWhile_append_of_pos hcs', htake hrest,
      htake hrest', List.append_nil, List.append_nil] at h
  subst hfront
  exact ⟨rfl, List.append_cancel_left h⟩

private theorem isDigit_of_mem_padZeros {width n : Nat} {c : Char}
    (h : c ∈ (padZeros width n).toList) : c.isDigit = true := by
  rw [toList_padZeros] at h
  rcases List.mem_append.mp h with h | h
  · rw [List.eq_of_mem_replicate h]
    rfl
  · exact Nat.isDigit_of_mem_toDigits (by decide) (by decide) h

private theorem toList_padZeros_ne_nil (width n : Nat) : (padZeros width n).toList ≠ [] := by
  rw [toList_padZeros]
  exact List.append_ne_nil_of_right_ne_nil _ Nat.toDigits_ne_nil

/-- A number that `padZeros` writes ends where something follows that is no digit. -/
private theorem padZeros_append_inj {width n k : Nat} {rest rest' : List Char}
    (hrest : ∀ c ∈ rest.head?, c.isDigit = false) (hrest' : ∀ c ∈ rest'.head?, c.isDigit = false)
    (h : (padZeros width n).toList ++ rest = (padZeros width k).toList ++ rest') :
    n = k ∧ rest = rest' := by
  obtain ⟨hdigits, hrest⟩ := append_inj_of_head (fun _ => isDigit_of_mem_padZeros)
    (fun _ => isDigit_of_mem_padZeros) hrest hrest' h
  exact ⟨padZeros_injective width (String.toList_injective hdigits), hrest⟩

private theorem padZeros_cons_inj {width n k : Nat} {c : Char} {rest rest' : List Char}
    (hc : c.isDigit = false)
    (h : (padZeros width n).toList ++ c :: rest = (padZeros width k).toList ++ c :: rest') :
    n = k ∧ rest = rest' := by
  have hhead : ∀ rest : List Char, ∀ c' ∈ (c :: rest).head?, c'.isDigit = false := by
    rintro rest _ ⟨⟩
    exact hc
  obtain ⟨hn, hrest⟩ := padZeros_append_inj (hhead rest) (hhead rest') h
  exact ⟨hn, List.tail_eq_of_cons_eq hrest⟩

/-- A number `n` that fits into a column is as wide as the column. -/
private theorem length_padZeros {width n : Nat} (hwidth : 0 < width) (h : n < 10 ^ width) :
    (padZeros width n).toList.length = width := by
  have hdigits : (Nat.toDigits 10 n).length ≤ width :=
    (Nat.length_toDigits_le_iff (by decide) hwidth).mpr h
  have hlength : (toString n).length = (Nat.toDigits 10 n).length := by
    rw [← String.length_toList]
    exact congrArg List.length Nat.toList_repr
  rw [toList_padZeros, List.length_append, List.length_replicate, hlength]
  omega

end Text

/-! ### Texts of instants -/

namespace Instant

open Text (append_inj_of_head isDigit_of_mem_padZeros length_padZeros padZeros
  padZeros_append_inj padZeros_cons_inj padZeros_injective toList_padZeros_ne_nil)

/-- The sign before the digits of `year`. -/
def yearSign (year : Int) : List Char :=
  if 0 ≤ year ∧ year ≤ 9999 then [] else if year < 0 then ['-'] else ['+']

private theorem toList_writeYear (year : Int) :
    (writeYear year).toList = yearSign year ++ (padZeros 4 year.natAbs).toList := by
  unfold writeYear yearSign
  split_ifs with hshort hnegative
  · have habs : year.toNat = year.natAbs := by omega
    rw [habs, List.nil_append]
  · exact String.toList_append
  · exact String.toList_append

private theorem isDigit_of_mem_yearSign {year : Int} {c : Char} (h : c ∈ yearSign year) :
    c.isDigit = false := by
  unfold yearSign at h
  split_ifs at h
  · cases h
  · rw [List.mem_singleton.mp h]
    rfl
  · rw [List.mem_singleton.mp h]
    rfl

theorem eq_of_yearSign_of_natAbs {y y' : Int} (hsign : yearSign y = yearSign y')
    (habs : y.natAbs = y'.natAbs) : y = y' := by
  unfold yearSign at hsign
  split_ifs at hsign
  all_goals first | omega | exact absurd hsign (by decide)

/-- What `writeYear` writes ends with its last digit. -/
private theorem writeYear_append_inj {y y' : Int} {c : Char} {rest rest' : List Char}
    (hc : c.isDigit = false)
    (h : (writeYear y).toList ++ c :: rest = (writeYear y').toList ++ c :: rest') :
    y = y' ∧ rest = rest' := by
  rw [toList_writeYear, toList_writeYear, List.append_assoc, List.append_assoc] at h
  have hsigns : ∀ y : Int, ∀ c ∈ yearSign y, (!c.isDigit) = true := fun y c hmem => by
    rw [isDigit_of_mem_yearSign hmem]
    rfl
  have hhead : ∀ (n : Nat) (rest : List Char),
      ∀ c ∈ ((padZeros 4 n).toList ++ rest).head?, (!c.isDigit) = false := by
    intro n rest c hmem
    rw [List.head?_append_of_ne_nil _ (toList_padZeros_ne_nil 4 n)] at hmem
    rw [isDigit_of_mem_padZeros (List.mem_of_head? hmem)]
    rfl
  obtain ⟨hsign, hdigits⟩ := append_inj_of_head (hsigns y) (hsigns y') (hhead _ _) (hhead _ _) h
  obtain ⟨habs, hrest⟩ := padZeros_cons_inj hc hdigits
  exact ⟨eq_of_yearSign_of_natAbs hsign habs, hrest⟩

/-- A fraction that is not zero is written by `writeFraction` in so many digits that nothing is
lost. -/
private theorem exists_writeFraction {n : Nat} (hne : n ≠ 0) (h : n < nanosPerSecond) :
    ∃ width k, (writeFraction n).toList = '.' :: (padZeros width k).toList ∧
      0 < width ∧ k < 10 ^ width ∧ n = k * 10 ^ (9 - width) := by
  unfold nanosPerSecond at h
  unfold writeFraction
  rw [if_neg hne]
  split_ifs with hmilli hmicro
  · exact ⟨3, n / 1000000, String.toList_append, by omega, by omega, by omega⟩
  · exact ⟨6, n / 1000, String.toList_append, by omega, by omega, by omega⟩
  · exact ⟨9, n, String.toList_append, by omega, by omega, by omega⟩

private theorem writeFraction_injOn : {n | n < nanosPerSecond}.InjOn writeFraction := by
  intro n hn n' hn' h
  have hzero : ∀ {n : Nat}, n < nanosPerSecond → writeFraction n = "" → n = 0 := by
    intro n hn h
    by_contra hne
    obtain ⟨width, k, htext, -⟩ := exists_writeFraction hne hn
    rw [h] at htext
    cases htext
  by_cases hne : n = 0
  · subst hne
    exact (hzero hn' h.symm).symm
  by_cases hne' : n' = 0
  · subst hne'
    exact hzero hn h
  obtain ⟨width, k, htext, hpos, hlt, rfl⟩ := exists_writeFraction hne hn
  obtain ⟨width', k', htext', hpos', hlt', rfl⟩ := exists_writeFraction hne' hn'
  have hdigits : padZeros width k = padZeros width' k' := by
    rw [h, htext'] at htext
    exact (String.toList_injective (List.tail_eq_of_cons_eq htext)).symm
  have hwidth : width = width' := by
    rw [← length_padZeros hpos hlt, hdigits, length_padZeros hpos' hlt']
  subst hwidth
  rw [padZeros_injective width hdigits]

/-- What follows a second in the text of an instant, `writeFraction` and the letter, starts with no
digit. -/
private theorem head?_writeFraction (n : Nat) (h : n < nanosPerSecond) :
    ∀ c ∈ ((writeFraction n).toList ++ ['Z']).head?, c.isDigit = false := by
  by_cases hne : n = 0
  · subst hne
    rintro _ ⟨⟩
    rfl
  · obtain ⟨width, k, htext, -⟩ := exists_writeFraction hne h
    rw [htext]
    rintro _ ⟨⟩
    rfl

/-- The instant `t` is one of the calendar. -/
def Valid (t : Instant) : Prop := ofUnix? t.seconds t.nanos = some t

instance (t : Instant) : Decidable t.Valid := inferInstanceAs (Decidable (_ = _))

/-- An instant `t` of the calendar is in a leap second only in the last second of a minute. -/
theorem Valid.leap {t : Instant} (h : t.Valid) :
    t.nanos < 2 * nanosPerSecond ∧
      (nanosPerSecond ≤ t.nanos → t.secondOfDay % 60 = 59) := by
  simp only [Valid, ofUnix?] at h
  split at h
  · cases h
  · rename_i hleap
    constructor
    · omega
    · intro hnanos
      by_contra hsecond
      exact hleap (.inr ⟨hnanos, hsecond⟩)

/-- The text that `writeZulu` gives of an instant shows its date, its time of day, a leap second
being the second 60, and the fraction of the second. -/
theorem shown_eq_of_writeZulu_eq {t t' : Instant} (h : t.writeZulu = t'.writeZulu) :
    t.date = t'.date ∧ t.secondOfDay / 3600 = t'.secondOfDay / 3600 ∧
      t.secondOfDay / 60 % 60 = t'.secondOfDay / 60 % 60 ∧
      t.secondOfDay % 60 + t.nanos / nanosPerSecond
        = t'.secondOfDay % 60 + t'.nanos / nanosPerSecond ∧
      t.nanos % nanosPerSecond = t'.nanos % nanosPerSecond := by
  have hrem : ∀ t : Instant, t.nanos % nanosPerSecond < nanosPerSecond :=
    fun t => Nat.mod_lt _ (by decide)
  have htext := congrArg String.toList h
  simp only [writeZulu, writeLocal, String.toList_append, List.append_assoc,
    show "-".toList = ['-'] from rfl, show "T".toList = ['T'] from rfl,
    show ":".toList = [':'] from rfl, show "Z".toList = ['Z'] from rfl, List.singleton_append]
    at htext
  obtain ⟨hyear, htext⟩ := writeYear_append_inj rfl htext
  obtain ⟨hmonth, htext⟩ := padZeros_cons_inj rfl htext
  obtain ⟨hday, htext⟩ := padZeros_cons_inj rfl htext
  obtain ⟨hhour, htext⟩ := padZeros_cons_inj rfl htext
  obtain ⟨hminute, htext⟩ := padZeros_cons_inj rfl htext
  obtain ⟨hsecond, htext⟩ := padZeros_append_inj (head?_writeFraction _ (hrem t))
    (head?_writeFraction _ (hrem t')) htext
  have hfraction := String.toList_injective (List.append_cancel_right htext)
  exact ⟨(Date.mk.injEq _ _ _ _ _ _).mpr ⟨hyear, hmonth, hday⟩, hhour, hminute, hsecond,
    writeFraction_injOn (hrem t) (hrem t') hfraction⟩

/-- **Different instants have different texts**, as long as they are instants of the calendar
(`Valid`). -/
theorem writeZulu_injOn : {t | Valid t}.InjOn writeZulu := by
  intro t ht t' ht' h
  obtain ⟨hdate, hhour, hminute, hsecond, hfraction⟩ := shown_eq_of_writeZulu_eq h
  have hdays : t.seconds / 86400 = t'.seconds / 86400 := Date.ofDays_injective hdate
  -- the second 60 is a leap second in both, and another one is a leap second in neither
  obtain ⟨hlt, hleap⟩ := ht.leap
  obtain ⟨hlt', hleap'⟩ := ht'.leap
  unfold secondOfDay at *
  unfold nanosPerSecond at *
  obtain ⟨seconds, nanos⟩ := t
  obtain ⟨seconds', nanos'⟩ := t'
  simp only at *
  have hseconds : seconds = seconds' := by omega
  have hnanos : nanos = nanos' := by omega
  rw [hseconds, hnanos]

end Instant

end RouterTrial
