import RouterTrial.Deck
import RouterTrial.Fault
import RouterTrial.Routing
import RouterTrial.Settings.Pairs

/-!
# Single settings

A setting has a name, a way to read its value and a default. What is looked up under the name is
trimmed; if nothing is left, the setting is absent and takes its default. A value that cannot be
read takes the default as well, but the setting is listed as rejected.
-/

namespace RouterTrial

/-- Finds the value under a name. -/
abbrev Lookup := String → Option String

/-- The value under `name`, trimmed, unless it is blank. -/
def Lookup.present (lookup : Lookup) (name : String) : Option String :=
  ((lookup name).map Text.trim).filter (! ·.isEmpty)

/-- A setting with values of the kind `α`: its name, how its text is read, and its default. -/
structure Setting (α : Type) where
  name : String
  parse : String → Option α
  default : α

namespace Setting

variable {α : Type}

/-- The value of the setting `s`; the default if there is none that can be read. -/
def value (s : Setting α) (lookup : Lookup) : α :=
  match lookup.present s.name with
  | none => s.default
  | some text => (s.parse text).getD s.default

/-- The setting `s`, if its value cannot be read. -/
def rejected (s : Setting α) (lookup : Lookup) : List Rejected :=
  match lookup.present s.name with
  | none => []
  | some text => if (s.parse text).isSome then [] else [⟨s.name, text⟩]

end Setting

/-! ### Formats -/

/-- The format of a report. -/
inductive ReportFormat where
  | text
  | markdown
  | json
  deriving Repr, DecidableEq

namespace ReportFormat

/-- The format that a word in lower case names. -/
def ofWord? : String → Option ReportFormat
  | "text" => some text
  | "json" => some json
  | "markdown" => some markdown
  | "md" => some markdown
  | _ => none

/-- The format that `s` names, in any letter case. -/
def ofText? (s : String) : Option ReportFormat := ofWord? (Text.lower (Text.trim s))

end ReportFormat

/-- The truth value that a word in lower case stands for. -/
def truthOfWord? : String → Option Bool
  | "true" => some true
  | "1" => some true
  | "yes" => some true
  | "false" => some false
  | "0" => some false
  | "no" => some false
  | _ => none

/-! ### The settings that are read -/

namespace Setting

/-- The number of attempts. -/
def total : Setting Int := ⟨"SIM_TOTAL_PAYMENTS", Number.signed?, 200⟩

/-- The percentage of payments that succeed. -/
def baseline : Setting Int := ⟨"SIM_SUCCESS_PERCENT", Number.signed?, 60⟩

/-- The size of the decks, `Deck.standardSize` if none is given. -/
def deckSize : Setting Int := ⟨"SIM_POOL_SIZE", Number.signed?, Deck.standardSize⟩

/-- The milliseconds before the first attempt. -/
def initialDelay : Setting Nat := ⟨"SIM_INITIAL_DELAY_MS", Number.unsigned?, 0⟩

/-- The milliseconds between two attempts. -/
def pause : Setting Nat := ⟨"SIM_INTER_PAYMENT_SLEEP_MS", Number.unsigned?, 0⟩

/-- The seed of the draws. -/
def seed : Setting (Option Nat) := ⟨"SIM_SEED", fun s => (Number.unsigned? s).map some, none⟩

/-- The milliseconds after which an exchange is given up. -/
def timeout : Setting Nat := ⟨"SIM_HTTP_TIMEOUT_MS", Number.unsigned?, 10000⟩

/-- The ranking that decisions are asked for with. -/
def ranking : Setting Ranking := ⟨"SIM_RANKING_ALGORITHM", Ranking.ofText?, .successRate⟩

/-- Whether the decision service may leave out connectors that fail. -/
def elimination : Setting Bool :=
  ⟨"SIM_ELIMINATION_ENABLED", fun s => truthOfWord? (Text.lower s), true⟩

/-- The format of the report. -/
def format : Setting ReportFormat := ⟨"SIM_REPORT_FORMAT", ReportFormat.ofText?, .text⟩

/-- The percentages of payments that succeed at single connectors. -/
def rates : Setting (List (String × Int)) :=
  ⟨"SIM_CONNECTOR_SUCCESS_RATES", Settings.connectorRates?, []⟩

end Setting

end RouterTrial
