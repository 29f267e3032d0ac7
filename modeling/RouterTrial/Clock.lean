import RouterTrial.Text.Column

/-!
# Instants

Points of time, and their text by RFC 3339 in universal time. The calendar is the Gregorian one for
all years, worked out from the number of days in cycles of 400 years that start on the first of
March.
-/

namespace RouterTrial

/-! ### Dates -/

/-- A day of the calendar. -/
structure Date where
  year : Int
  month : Nat
  day : Nat
  deriving Repr, DecidableEq

/-- The days of a cycle of 400 years. -/
def daysPerCycle : Nat := 146097

/-- The days from the first of March of the year 0 to the first of January 1970. -/
def daysBeforeEpoch : Int := 719468

/-- The year of a cycle, starting in March, in which `day` of the cycle lies. -/
def yearOfCycle (day : Nat) : Nat :=
  (day - day / 1460 + day / 36524 - day / 146096) / 365

/-- The date of the day `days` after the first of January 1970. -/
def Date.ofDays (days : Int) : Date :=
  let cycle := (days + daysBeforeEpoch) / daysPerCycle
  let dayOfCycle := ((days + daysBeforeEpoch) % daysPerCycle).toNat
  let year := yearOfCycle dayOfCycle
  let dayOfYear := dayOfCycle - (365 * year + year / 4 - year / 100)
  -- the months since March
  let month := (5 * dayOfYear + 2) / 153
  let day := dayOfYear - (153 * month + 2) / 5 + 1
  if month < 10 then ⟨year + 400 * cycle, month + 3, day⟩
  else ⟨year + 400 * cycle + 1, month - 9, day⟩

/-! ### Instants -/

/-- A point of time: the seconds since the start of 1970, and the nanoseconds since the start of
that second. During a leap second they go on beyond `nanosPerSecond`. -/
structure Instant where
  seconds : Int
  nanos : Nat
  deriving Repr, DecidableEq

namespace Instant

/-- The nanoseconds of a second. -/
def nanosPerSecond : Nat := 1000000000

/-- The first and the last year that an instant can lie in. -/
def years : Int × Int := (-262143, 262142)

/-- The `Date` of the instant `t`. -/
def date (t : Instant) : Date := Date.ofDays (t.seconds / 86400)

/-- The seconds of the instant `t` since the start of its day. -/
def secondOfDay (t : Instant) : Nat := (t.seconds % 86400).toNat

/-- The instant of `seconds` and `nanos`, if the calendar has it: a leap second is the last one of a
minute. -/
def ofUnix? (seconds : Int) (nanos : Nat) : Option Instant :=
  let t : Instant := ⟨seconds, nanos⟩
  let leap := nanosPerSecond ≤ nanos
  if 2 * nanosPerSecond ≤ nanos ∨ (leap ∧ t.secondOfDay % 60 ≠ 59) then none
  else if years.1 ≤ t.date.year ∧ t.date.year ≤ years.2 then some t
  else none

/-! ### Texts -/

/-- The `year` in four digits at least, with a sign if it is not one of the first ten thousand. -/
def writeYear (year : Int) : String :=
  if 0 ≤ year ∧ year ≤ 9999 then Text.padZeros 4 year.toNat
  else (if year < 0 then "-" else "+") ++ Text.padZeros 4 year.natAbs

/-- The `nanos` of a second in no, three, six or nine digits, as few as lose nothing. -/
def writeFraction (nanos : Nat) : String :=
  if nanos = 0 then ""
  else if nanos % 1000000 = 0 then "." ++ Text.padZeros 3 (nanos / 1000000)
  else if nanos % 1000 = 0 then "." ++ Text.padZeros 6 (nanos / 1000)
  else "." ++ Text.padZeros 9 nanos

/-- The date and the time of day of the instant `t`. A leap second has the number 60. -/
def writeLocal (t : Instant) : String :=
  let second := t.secondOfDay % 60 + t.nanos / nanosPerSecond
  writeYear t.date.year ++ "-" ++ Text.padZeros 2 t.date.month ++ "-" ++ Text.padZeros 2 t.date.day
    ++ "T" ++ Text.padZeros 2 (t.secondOfDay / 3600) ++ ":"
    ++ Text.padZeros 2 (t.secondOfDay / 60 % 60) ++ ":" ++ Text.padZeros 2 second
    ++ writeFraction (t.nanos % nanosPerSecond)

/-- The text of the instant `t` with the offset in numbers. -/
def writeOffset (t : Instant) : String := t.writeLocal ++ "+00:00"

/-- The text of the instant `t` with the letter for universal time. -/
def writeZulu (t : Instant) : String := t.writeLocal ++ "Z"

end Instant

end RouterTrial
