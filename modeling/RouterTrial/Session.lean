import RouterTrial.Trial

/-!
# Sessions

A session holds a trial and lets it run once. It is running from the moment at which its directory
has given it a roster, and completed as soon as its run has ended or its directory has failed. Only
an idle session can be run: every further run is refused without a call of any service.
-/

namespace RouterTrial

/-- Where a session stands. -/
inductive SessionState where
  | idle
  | running
  | completed
  deriving Repr, DecidableEq

/-- The name of a state. -/
def SessionState.name : SessionState → String
  | idle => "Idle"
  | running => "Running"
  | completed => "Completed"

/-- A trial that can run once. -/
structure Session where
  trial : Trial
  state : SessionState

namespace Session

/-- The session of the trial with the settings `s`. -/
def ofSettings? (s : Settings) : Except ConfigurationFault Session :=
  (Trial.ofSettings? s).map fun trial => ⟨trial, .idle⟩

/-- What a run gives: its `result`, the `session` behind it, and its `log`. -/
structure Ending where
  result : Except Fault Trial.Run
  session : Session
  log : Log

/-- The session `s` in another `state`. -/
def moveTo (s : Session) (state : SessionState) : Session := { s with state }

/-- The line that says why a session stops before its first attempt: for the `fault` of its
directory. -/
def abortLine (fault : Fault) : LogLine := ⟨.error, "aborting simulation: " ++ fault.message⟩

/-- Runs the trial of the session `s`, if it is idle, with the connectors of the `directory`. -/
def run {m : Type → Type} [Monad m] (s : Session) (services : Services m) (directory : Directory m)
    (entropy : Keystream) : m Ending :=
  match s.state with
  | .running | .completed => return ⟨.error ConfigurationFault.spent.fault, s, []⟩
  | .idle => do
    let resolved ← directory.resolve
    match resolved.1 with
    | .error cause =>
      return ⟨.error cause.fault, s.moveTo .completed, resolved.2 ++ [abortLine cause.fault]⟩
    | .ok roster =>
      let running := s.moveTo .running
      let ran ← running.trial.run services roster entropy
      return ⟨.ok ran.1, running.moveTo .completed, resolved.2 ++ ran.2⟩

end Session

end RouterTrial
