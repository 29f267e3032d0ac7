import RouterTrial.Fault

/-!
# Schedules

A trial goes through three phases, one after the other: in the first half of its attempts payments
succeed at the baseline rate, in the quarter behind it all of them fail, and in the rest they
succeed again. A window is the range of the attempts of one phase; attempts are counted from one.
-/

namespace RouterTrial

/-! ### Phases -/

/-- A phase of a trial. -/
inductive Phase where
  | baseline
  | forcedFailure
  | recovery
  deriving Repr, DecidableEq

namespace Phase

/-- The phases in their order. -/
def all : List Phase := [baseline, forcedFailure, recovery]

/-- The place of a phase in `all` of them. -/
def rank : Phase → Nat
  | baseline => 0
  | forcedFailure => 1
  | recovery => 2

instance : Ord Phase := ⟨fun x y => compare x.rank y.rank⟩

/-- The name of a phase in records, which `ofName?` reads. -/
def name : Phase → String
  | baseline => "baseline"
  | forcedFailure => "forced_failure"
  | recovery => "recovery"

/-- The phase with this name. -/
def ofName? : String → Option Phase
  | "baseline" => some baseline
  | "forced_failure" => some forcedFailure
  | "recovery" => some recovery
  | _ => none

theorem ofName?_name (p : Phase) : ofName? p.name = some p := by cases p <;> rfl

end Phase

/-! ### Windows -/

/-- The attempts of a phase: those behind `after`, up to and including `through`. -/
structure Window where
  phase : Phase
  after : Nat
  through : Nat
  /-- The percentage of payments that succeed. -/
  percent : Nat
  deriving Repr, DecidableEq

namespace Window

/-- The number of attempts of the window `w`. -/
def length (w : Window) : Nat := w.through - w.after

/-- The window `w` has no attempts. -/
def isEmpty (w : Window) : Bool := w.length == 0

/-- The attempt number `index` lies in the window `w`. -/
def contains (w : Window) (index : Nat) : Bool := w.after < index && index ≤ w.through

theorem contains_iff {w : Window} {index : Nat} :
    w.contains index = true ↔ w.after < index ∧ index ≤ w.through := by
  simp [contains]

end Window

/-! ### Schedules -/

/-- The percentage `n`, if the number is one. -/
def percent? (n : Int) : Except ConfigurationFault Nat :=
  if 0 ≤ n ∧ n ≤ 100 then .ok n.toNat else .error (.percent n)

/-- The largest number of attempts, `2 ^ 32 - 1`. -/
def maxAttempts : Nat := 4294967295

/-- How many attempts a trial has, and the percentage of payments that succeed outside the phase
of forced failure. -/
structure Schedule where
  total : Nat
  percent : Nat
  deriving Repr, DecidableEq

namespace Schedule

/-- The schedule for `total` attempts at `percent`. -/
def plan? (total percent : Int) : Except ConfigurationFault Schedule :=
  if 0 < total ∧ total ≤ maxAttempts then (percent? percent).map (⟨total.toNat, ·⟩)
  else .error (.attempts total)

/-- The last attempt of `s` before the phase of forced failure. -/
def failureStart (s : Schedule) : Nat := s.total / 2

/-- The last attempt of `s` in the phase of forced failure. -/
def failureEnd (s : Schedule) : Nat := s.failureStart + s.total / 4

/-- The windows of the three phases of `s` in order. -/
def windows (s : Schedule) : List Window :=
  [⟨.baseline, 0, s.failureStart, s.percent⟩,
    ⟨.forcedFailure, s.failureStart, s.failureEnd, 0⟩,
    ⟨.recovery, s.failureEnd, s.total, s.percent⟩]

/-- The window in which the attempt number `index` lies: the first one that does not end before
it. -/
def window? (s : Schedule) (index : Nat) : Option Window :=
  if index = 0 ∨ s.total < index then none else s.windows.find? fun w => index ≤ w.through

/-- The percentage of payments that succeed at the attempt number `index`. -/
def percentAt? (s : Schedule) (index : Nat) : Option Nat := (s.window? index).map (·.percent)

end Schedule

end RouterTrial
