import RouterTrial.Exchange.DecisionService
import RouterTrial.Exchange.ListingService
import RouterTrial.Exchange.PaymentService
import RouterTrial.Exchange.SummaryService
import RouterTrial.Report.Render
import RouterTrial.Session

/-!
# The command line

What the program does with its environment: it reads the settings, runs one trial against the
services that they name, and prints the report. It fails only if the settings cannot be used or
there is no connector; no answer of a service makes it fail. The log of its trial is part of how it
ends (`CommandLine.Ending`), so that an onlooker can be shown what is serious enough.

The surroundings are a value, so that the program is a function of them.
-/

namespace RouterTrial

/-! ### Surroundings -/

/-- What the program needs from its surroundings. -/
structure Host (m : Type → Type) where
  network : Network m
  /-- A fresh token for a payment of the stand-in (`PaymentAnswer.standIn`). -/
  token : m String
  /-- Lets so many milliseconds pass. -/
  wait : Nat → m Unit
  /-- Somebody has asked the program to stop. -/
  isCancelled : m Bool
  now : m Instant
  /-- A keystream that nobody can foresee. -/
  entropy : m Keystream

/-- What the program leaves behind. -/
structure Exit where
  code : Nat
  stdout : String
  stderr : String
  deriving Repr, DecidableEq

/-- The program failed with the fault `f`. -/
def Exit.failure (f : Fault) : Exit := ⟨1, "", "Error: " ++ f.message ++ "\n"⟩

/-- The program succeeded and prints `text`. -/
def Exit.success (text : String) : Exit := ⟨0, text ++ "\n", ""⟩

/-! ### The services of the settings -/

namespace Settings

variable {m : Type → Type} [Monad m]

/-- The decision service of the settings `s`. -/
def decisionService (s : Settings) : DecisionService :=
  ⟨s.decisionUrl, s.decisionMerchant, s.elimination, s.timeout⟩

/-- The payment service of the settings `s`. -/
def paymentService (s : Settings) : PaymentService :=
  ⟨s.paymentsUrl, s.paymentsKey, s.paymentsProfile, s.timeout⟩

/-- The listing service of the settings `s`, if they name one. -/
def listingService? (s : Settings) : Option ListingService :=
  s.lookupUrl.map fun url => ⟨url, s.paymentsMerchant, s.paymentsKey, s.timeout⟩

/-- The summary service of the settings `s`, if they name one. -/
def summaryService? (s : Settings) : Option SummaryService :=
  s.summarizerUrl.map fun url => ⟨url, s.timeout⟩

/-- The services of a trial with the settings `s`, over the network of `host`. -/
def services (s : Settings) (host : Host m) : Services m where
  decide := s.decisionService.decide host.network
  execute := s.paymentService.execute host.network host.token
  report := s.decisionService.report host.network
  wait := host.wait
  isCancelled := host.isCancelled

/-- The directory of a trial with the settings `s`. Its source is the listing service, if there is
one. -/
def directory (s : Settings) (host : Host m) : Directory m where
  fixed := s.connectors
  profile := s.paymentsProfile
  source := s.listingService?.map (·.fetch host.network)

/-- The summarizer of a trial with the settings `s`: the summary service, if there is one. -/
def summarizer (s : Settings) (host : Host m) : Option (Summarizer m) :=
  s.summaryService?.map (·.summarize host.network)

end Settings

/-! ### The program -/

namespace CommandLine

/-- How the program ends: its `exit`, and the lines of its log before and behind what it prints. -/
structure Ending where
  exit : Exit
  log : Log
  closing : Log
  deriving Repr, DecidableEq

/-- The warning behind the report on a `run` that was cancelled before the last of its `total`
attempts. -/
def closingLog (run : Trial.Run) (total : Nat) : Log :=
  if run.cancelled then
    [⟨.warn, "run cancelled after " ++ toString run.processed ++ " of " ++ toString total
      ++ " attempts"⟩]
  else []

/-- The line with which the program notes that somebody has asked it to stop. -/
def interruptLine : LogLine := ⟨.warn, "interrupt received, finishing the current attempt"⟩

section Program

variable {m : Type → Type} [Monad m]

/-- Runs the program in an environment and gives the `view` of its ending. -/
def perform {α : Type} (view : Ending → α) (host : Host m) (environment : Lookup) : m α := do
  let settings := Settings.ofLookup environment
  match Session.ofSettings? settings with
  | .error cause => return view ⟨.failure cause.fault, [], []⟩
  | .ok session =>
    let ending ← session.run (settings.services host) (settings.directory host) (← host.entropy)
    match ending.result with
    | .error fault => return view ⟨.failure fault, ending.log, []⟩
    | .ok trialRun =>
      let (report, log) ← trialRun.ledger.reportWith (← host.now) (settings.summarizer host)
      return view ⟨.success (report.render settings.format), ending.log ++ log,
        closingLog trialRun session.trial.schedule.total⟩

/-- Runs the program in an `environment` and gives the `exit` of its `Ending`. -/
def run (host : Host m) (environment : Lookup) : m Exit := perform Ending.exit host environment

end Program

end CommandLine

end RouterTrial
