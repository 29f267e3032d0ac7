import RouterTrial.Text.Quoted

/-!
# Faults

What can go wrong, by kind. A fault of the network or of an answer is recoverable: the trial goes
on without that answer. A configuration that cannot be used and a directory that has no connector
are not.

The causes of configuration and directory faults are values of types of their own, with the wording
in one function each; `Fault` carries that wording and puts the kind before it.
-/

namespace RouterTrial

/-! ### Faults and their messages -/

/-- Something that went wrong, with its text. -/
inductive Fault where
  | transport (text : String)
  | decode (text : String)
  | directoryUnavailable (text : String)
  | invalidConfiguration (text : String)
  deriving Repr, DecidableEq

namespace Fault

/-- The text of a fault. -/
def text : Fault → String
  | transport text | decode text | directoryUnavailable text | invalidConfiguration text => text

/-- What stands before the text of a fault. -/
def heading : Fault → String
  | transport _ => "transport error: "
  | decode _ => "decode error: "
  | directoryUnavailable _ => "no connector available: "
  | invalidConfiguration _ => "invalid configuration: "

/-- The message of the fault `f`: its `heading` and its `text`. -/
def message (f : Fault) : String := f.heading ++ f.text

/-- The trial can go on after the fault: it is one of the network or of an answer. -/
def isRecoverable : Fault → Bool
  | transport _ | decode _ => true
  | directoryUnavailable _ | invalidConfiguration _ => false

end Fault

/-! ### Configuration -/

/-- A setting whose value could not be read. -/
structure Rejected where
  name : String
  value : String
  deriving Repr, DecidableEq

/-- The rejected setting `r` as it is listed: its name and its value quoted. -/
def Rejected.render (r : Rejected) : String := r.name ++ "=" ++ Text.quote r.value

/-- The largest number of cards in a deck. -/
def maxDeckSize : Nat := 1000000

/-- What is wrong with a configuration. -/
inductive ConfigurationFault where
  /-- Settings that could not be read. -/
  | unparsable (rejected : List Rejected)
  /-- A setting for the number of payments, `n`, that is not positive. -/
  | totalPayments (n : Int)
  /-- A setting for the success percentage, `n`, that is none. -/
  | successPercent (n : Int)
  /-- A setting for the size of the decks, `n`, that is out of range. -/
  | poolSize (n : Int)
  /-- A rate `n` for a `connector` that is no percentage. -/
  | connectorRate (connector : String) (n : Int)
  /-- A timeout of zero. -/
  | timeout
  /-- A schedule for `n` attempts, which is out of range. -/
  | attempts (n : Int)
  /-- A percentage `n` that is out of range. -/
  | percent (n : Int)
  /-- A deck of `n` cards, which is out of range. -/
  | deckSize (n : Nat)
  /-- A deck of `n` cards, of which the product with its percentage does not fit into a machine
  word. -/
  | deckProduct (n : Nat)
  /-- A second run of the same session. -/
  | spent
  deriving Repr, DecidableEq

namespace ConfigurationFault

/-- The wording of a configuration fault. -/
def text : ConfigurationFault → String
  | unparsable rejected => "unparsable values: " ++ ", ".intercalate (rejected.map Rejected.render)
  | totalPayments n => "SIM_TOTAL_PAYMENTS must be > 0, got " ++ toString n
  | successPercent n => "SIM_SUCCESS_PERCENT must be within [0,100], got " ++ toString n
  | poolSize n =>
    "SIM_POOL_SIZE must be within [1," ++ toString maxDeckSize ++ "], got " ++ toString n
  | connectorRate connector n =>
    "SIM_CONNECTOR_SUCCESS_RATES for " ++ connector ++ " must be within [0,100], got " ++ toString n
  | timeout => "SIM_HTTP_TIMEOUT_MS must be > 0"
  | attempts n => "total attempts must be positive, got " ++ toString n
  | percent n => "success percent must be within [0,100], got " ++ toString n
  | deckSize n =>
    "outcome pool size must be within [1," ++ toString maxDeckSize ++ "], got " ++ toString n
  | deckProduct n => "outcome pool size " ++ toString n ++ " overflows"
  | spent => "simulation already ran; build a new orchestrator"

/-- The `Fault` with this `cause`. -/
def fault (cause : ConfigurationFault) : Fault := .invalidConfiguration cause.text

end ConfigurationFault

/-! ### Directories -/

/-- Why a directory has no connector. -/
inductive DirectoryFault where
  /-- Neither connectors of its own nor a source to ask. -/
  | noSource
  /-- The source gave no connector that is enabled for the `profile`. -/
  | noneEnabled (profile : String)
  deriving Repr, DecidableEq

namespace DirectoryFault

/-- The wording of a directory fault. -/
def text : DirectoryFault → String
  | noSource => "no static connectors configured and no lookup source"
  | noneEnabled profile =>
    "connector lookup returned no enabled connector for profile " ++ profile

/-- The `Fault` with this `cause`. -/
def fault (cause : DirectoryFault) : Fault := .directoryUnavailable cause.text

end DirectoryFault

end RouterTrial
