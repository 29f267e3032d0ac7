import RouterTrial.Proofs.Trial.Course
import RouterTrial.Proofs.Transcript

/-!
# Sessions that are run again

A session may be asked to run any number of times, each time with services and a directory of its
own and with anything happening in between (`Session.visits`). It runs at most once: the first run
completes it, however it ends, and all others are refused and ask nobody anything.

A run is followed in a history of the questions that it asks, to the source of its directory as well
as to its services. Following a run does not change it (`follow_run`).
-/

namespace RouterTrial

/-! ### Histories -/

/-- A question of a session to its surroundings, with the answer. -/
inductive Event where
  /-- The source of connectors was asked and gave this `answer`. -/
  | listed (answer : Except Fault (List Listing))
  /-- A service was called; the `entry` has its answer. -/
  | called (entry : Entry)

/-- The questions of a session, in order. -/
abbrev History := List Event

/-- The services `s` with every call put down. -/
def Services.remembered {σ : Type} (s : Services (StateM σ)) :
    Services (StateT History (StateM σ)) := s.noted .called

/-- The directory `d` with every question to its source put down. -/
def Directory.remembered {σ : Type} (d : Directory (StateM σ)) :
    Directory (StateT History (StateM σ)) :=
  ⟨d.fixed, d.profile, d.source.map (Services.writing .listed)⟩

namespace Session

variable {σ : Type}

/-- Runs the `session` from the state `s` of its surroundings, and puts down what it asks. -/
def follow (session : Session) (services : Services (StateM σ)) (directory : Directory (StateM σ))
    (entropy : Keystream) (s : σ) : (Ending × History) × σ :=
  session.run services.remembered directory.remembered entropy [] s

/-- A run that a session is asked for. -/
structure Visit (σ : Type) where
  /-- What happens to the surroundings before it. -/
  change : σ → σ
  services : Services (StateM σ)
  directory : Directory (StateM σ)
  entropy : Keystream

/-- The endings of one run after the other, and what each of them has asked: the `session` goes on
as the run before has left it. -/
def visits (session : Session) : List (Visit σ) → σ → List (Ending × History)
  | [], _ => []
  | visit :: rest, s =>
    let followed := session.follow visit.services visit.directory visit.entropy (visit.change s)
    followed.1 :: visits followed.1.1.session rest followed.2

end Session

/-! ### Following a run -/

section Following

variable {σ : Type} (services : Services (StateM σ)) (directory : Directory (StateM σ))
  (entropy : Keystream) (s : σ)

/-- To find its connectors the `directory` asks nobody but its source. -/
theorem Directory.exists_resolve_remembered (history : History) :
    ∃ answers : List (Except Fault (List Listing)),
      directory.remembered.resolve history s
        = (((directory.resolve s).1, history ++ answers.map .listed), (directory.resolve s).2) := by
  obtain ⟨fixed, profile, source⟩ := directory
  cases fixed with
  | cons pair pairs => exact ⟨[], by rw [List.map_nil, List.append_nil]; rfl⟩
  | nil =>
    cases source with
    | none => exact ⟨[], by rw [List.map_nil, List.append_nil]; rfl⟩
    | some ask => exact ⟨[(ask s).1], rfl⟩

/-- The `session` runs followed as it does by itself. -/
theorem Session.follow_run (session : Session) :
    (session.follow services directory entropy s).1.1
        = (session.run services directory entropy s).1 ∧
      (session.follow services directory entropy s).2
        = (session.run services directory entropy s).2 := by
  have hresolve : (Coupling.forgetting History σ).Rel Eq directory.remembered.resolve
      directory.resolve := by
    intro history s
    obtain ⟨answers, hremembered⟩ := directory.exists_resolve_remembered s history
    rw [hremembered]
    exact ⟨rfl, rfl⟩
  have hservices : Services.Coupled (.forgetting History σ) services.remembered services :=
    services.noted_forgetting Event.called
  exact session.run_coupled hservices hresolve entropy [] s

end Following

/-! ### One run -/

namespace Session

variable {σ : Type} {session : Session} (services : Services (StateM σ))
  (directory : Directory (StateM σ)) (entropy : Keystream) (s : σ)

/-- A `session` that is not idle asks nobody anything, and leaves everything as it is. -/
theorem follow_of_ne_idle (h : session.state ≠ .idle) :
    session.follow services directory entropy s
      = ((⟨.error ConfigurationFault.spent.fault, session, []⟩, []), s) := by
  unfold follow run
  cases hstate : session.state with
  | idle => exact absurd hstate h
  | running | completed => rfl

/-- The run of an idle `session` completes it. If it fails, the directory has no connector, and
nobody was asked but its source. -/
private theorem exists_follow_of_idle (h : session.state = .idle) :
    ∃ (ending : Ending) (history : History),
      (session.follow services directory entropy s).1 = (ending, history) ∧
      ending.session.state = .completed ∧
      ∀ fault, ending.result = .error fault →
        (∃ cause : DirectoryFault, (directory.resolve s).1.1 = .error cause ∧
          fault = .directoryUnavailable cause.text) ∧
        ∀ event ∈ history, ∃ answer, event = .listed answer := by
  obtain ⟨answers, hremembered⟩ := directory.exists_resolve_remembered s []
  unfold follow run Trial.run
  rw [h]
  simp only [Services.bind_apply]
  rw [hremembered]
  cases hresolve : (directory.resolve s).1.1 with
  | error cause =>
    refine ⟨_, answers.map .listed, rfl, rfl, fun fault hfault => ?_⟩
    obtain rfl := Except.error.inj hfault
    refine ⟨⟨cause, rfl, rfl⟩, fun event hevent => ?_⟩
    obtain ⟨answer, -, rfl⟩ := List.mem_map.mp hevent
    exact ⟨answer, rfl⟩
  | ok roster =>
    -- the attempts may ask the services, but nothing in them makes a run fail
    exact ⟨_, _, rfl, rfl, nofun⟩

/-! ### Any number of runs -/

/-- Once a `session` is not idle any more, every run is refused and asks nobody anything. -/
theorem visits_of_ne_idle (h : session.state ≠ .idle) (visits : List (Visit σ)) (s : σ) :
    session.visits visits s
      = visits.map fun _ => (⟨.error ConfigurationFault.spent.fault, session, []⟩, []) := by
  induction visits generalizing s with
  | nil => rfl
  | cons visit rest ih =>
    rw [Session.visits, follow_of_ne_idle _ _ _ _ h, ih, List.map_cons]

/-- **At most one run.** Of the runs that a `session` is asked for (`visits`), the first ends like
any run of its and completes the session. It fails only for want of a connector, and then it has
asked nobody but the source of its directory. All others are refused, leave the session completed,
and ask nobody anything. -/
theorem exists_visits_eq {settings : Settings} (h : ofSettings? settings = .ok session)
    (first : Visit σ) (rest : List (Visit σ)) (s : σ) :
    ∃ (ending : Ending) (history : History),
      session.visits (first :: rest) s
        = (ending, history) :: (rest.map fun _ =>
            (⟨.error (.invalidConfiguration ConfigurationFault.spent.text), ending.session, []⟩,
              [])) ∧
      ending = (session.run first.services first.directory first.entropy (first.change s)).1 ∧
      ending.session.state = .completed ∧
      ∀ fault, ending.result = .error fault →
        (∃ cause : DirectoryFault, (first.directory.resolve (first.change s)).1.1 = .error cause ∧
          fault = .directoryUnavailable cause.text) ∧
        ∀ event ∈ history, ∃ answer, event = .listed answer := by
  obtain ⟨-, hidle⟩ := ofSettings?_eq_ok h
  obtain ⟨ending, history, hfollow, hcompleted, hfails⟩ :=
    exists_follow_of_idle first.services first.directory first.entropy (first.change s) hidle
  have hrun := (follow_run first.services first.directory first.entropy (first.change s) session).1
  rw [hfollow] at hrun
  have hspent : ending.session.state ≠ .idle := by
    rw [hcompleted]
    nofun
  refine ⟨ending, history, ?_, hrun, hcompleted, hfails⟩
  rw [visits, hfollow, visits_of_ne_idle hspent]
  rfl

/-- A session that found no connector is refused a second run as well, though there are some by
then. -/
theorem exists_visits_eq_of_unlisted :
    ∃ (session : Session) (ending : Ending) (history : History),
      ofSettings? .four = .ok session ∧
      session.visits [⟨id, .charging 4 "b", .ofFixed [], .ofSeed 0⟩,
          ⟨(· + 1), .charging 4 "b", .two, .ofSeed 1⟩] 0
        = [(ending, history),
            (⟨.error ConfigurationFault.spent.fault, ending.session, []⟩, [])] ∧
      ending.result = .error DirectoryFault.noSource.fault := by
  obtain ⟨session, hsession⟩ : ∃ session, ofSettings? .four = .ok session := ⟨_, rfl⟩
  obtain ⟨-, hidle⟩ := ofSettings?_eq_ok hsession
  obtain ⟨ending, history, hvisits, hending, -⟩ := exists_visits_eq hsession
    ⟨id, .charging 4 "b", .ofFixed [], .ofSeed 0⟩ [⟨(· + 1), .charging 4 "b", .two, .ofSeed 1⟩] 0
  refine ⟨session, ending, history, hsession, hvisits, ?_⟩
  rw [hending]
  unfold run
  rw [hidle]
  rfl

end Session

end RouterTrial
