/-!
# Log lines

What a trial tells an onlooker while it runs: lines of text, each with a level. An onlooker is shown
the lines that are at least as serious as some level.
-/

namespace RouterTrial

/-- How serious a log line is. -/
inductive Level where
  | debug
  | info
  | warn
  | error
  deriving Repr, DecidableEq

/-- The name of a level. -/
def Level.name : Level → String
  | debug => "DEBUG"
  | info => "INFO"
  | warn => "WARN"
  | error => "ERROR"

/-- A line of the log. -/
structure LogLine where
  level : Level
  text : String
  deriving Repr, DecidableEq

/-- The lines of a log, the first one first. -/
abbrev Log := List LogLine

/-- The level of the `line`, a space and its text. -/
def LogLine.render (line : LogLine) : String := line.level.name ++ " " ++ line.text

/-! ### Onlookers -/

/-- How serious a level is, as a number, for `Log.shown`. -/
def Level.rank : Level → Nat
  | debug => 0
  | info => 1
  | warn => 2
  | error => 3

/-- The lines of a log that are at least as serious as `level`. -/
def Log.shown (level : Level) (log : Log) : Log := log.filter (level.rank ≤ ·.level.rank)

end RouterTrial
