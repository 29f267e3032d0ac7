import RouterTrial.Proofs.Coupling

/-!
# Transcripts

The transcript of a session is the list of the calls that it makes of its services, each with the
answer that it gets, in order. `Session.watch` runs a session over any services and writes its
transcript; the session itself runs as it does unwatched (`watch_fst`), and the calls in the
transcript are those that `Services.traced` notes (`calls_of_watch`).

The services act on a state of any type. What they answer may so depend on all that has happened,
and the wish to stop a trial may come up in any of their calls and waits.
-/

namespace RouterTrial

/-! ### Entries -/

/-- A call of a service with its answer. -/
inductive Entry where
  | decided (query : DecisionQuery) (decision : Decision)
  | executed (order : PaymentOrder) (answer : PaymentAnswer)
  | reported (feedback : Feedback) (answer : Except Fault Acknowledgement)

/-- The calls of a session with their answers, in order. -/
abbrev Transcript := List Entry

namespace Entry

/-- The `Call` of an entry. -/
def call : Entry → Call
  | decided query _ => .decide query
  | executed order _ => .execute order
  | reported feedback _ => .report feedback

/-- The `Call` of an entry, unless it is a feedback. -/
def request? : Entry → Option Call
  | decided query _ => some (.decide query)
  | executed order _ => some (.execute order)
  | reported _ _ => none

/-- The connector that was decided on, or that there is none, if the entry is a decision. -/
def choice? : Entry → Option (Option String)
  | decided _ decision => some decision.connector
  | executed _ _ => none
  | reported _ _ => none

/-- The feedback of an entry, if it is one. -/
def feedback? : Entry → Option Feedback
  | decided _ _ => none
  | executed _ _ => none
  | reported feedback _ => some feedback

end Entry

namespace Transcript

/-- The questions for decisions and the orders for payments in `t`, in order. -/
def requests (t : Transcript) : List Call := t.filterMap Entry.request?

/-- What was decided on in `t`, decision by decision. -/
def choices (t : Transcript) : List (Option String) := t.filterMap Entry.choice?

/-- The feedback that was given in `t`, in order. -/
def feedbacks (t : Transcript) : List Feedback := t.filterMap Entry.feedback?

theorem requests_append (t u : Transcript) : requests (t ++ u) = t.requests ++ u.requests :=
  List.filterMap_append

theorem choices_append (t u : Transcript) : choices (t ++ u) = t.choices ++ u.choices :=
  List.filterMap_append

theorem feedbacks_append (t u : Transcript) : feedbacks (t ++ u) = t.feedbacks ++ u.feedbacks :=
  List.filterMap_append

end Transcript

/-! ### Services that are watched -/

namespace Services

variable {m : Type → Type} [Monad m]

/-- An action that writes down the `entry` of its answer when it is done. -/
def writing {ε α : Type} (entry : α → ε) (action : m α) : StateT (List ε) m α :=
  fun written => do
    let answer ← action
    return (answer, written ++ [entry answer])

/-- The services with every call and its answer written down in order, each in some `form`. -/
def noted {ε : Type} (form : Entry → ε) (s : Services m) : Services (StateT (List ε) m) where
  decide query := writing (fun answer => form (.decided query answer)) (s.decide query)
  execute order := writing (fun answer => form (.executed order answer)) (s.execute order)
  report feedback := writing (fun answer => form (.reported feedback answer)) (s.report feedback)
  wait duration := StateT.lift (s.wait duration)
  isCancelled := StateT.lift s.isCancelled

/-- The services `s` with every call and its answer written down in order. -/
def transcribed (s : Services m) : Services (StateT Transcript m) := s.noted id

end Services

/-- Runs the `session` from the state `s` of its services, and writes its transcript. -/
def Session.watch {σ : Type} (session : Session) (services : Services (StateM σ))
    (directory : Directory (StateM σ)) (entropy : Keystream) (s : σ) : Ending × Transcript :=
  (session.run services.transcribed (directory.lift StateT.lift) entropy [] s).1

/-! ### What watched services do -/

/-- One `action` after another, with nothing written down. -/
theorem stateM_bind_apply {σ α β : Type} (action : StateM σ α) (next : α → StateM σ β)
    (state : σ) : (action >>= next) state = next (action state).1 (action state).2 :=
  rfl

namespace Services

section Apply

variable {σ ω α β : Type} (kept : ω) (s : σ)

theorem bind_apply (action : StateT ω (StateM σ) α) (next : α → StateT ω (StateM σ) β) :
    (action >>= next) kept s
      = next (action kept s).1.1 (action kept s).1.2 (action kept s).2 :=
  rfl

theorem pure_apply (a : α) : (pure a : StateT ω (StateM σ) α) kept s = ((a, kept), s) := rfl

theorem map_apply (f : α → β) (action : StateT ω (StateM σ) α) :
    (f <$> action) kept s
      = ((f (action kept s).1.1, (action kept s).1.2), (action kept s).2) :=
  rfl

theorem lift_apply (action : StateM σ α) :
    (StateT.lift action : StateT ω (StateM σ) α) kept s
      = (((action s).1, kept), (action s).2) :=
  rfl

theorem writing_apply {ε : Type} (entry : α → ε) (action : StateM σ α) (written : List ε) :
    writing entry action written s
      = (((action s).1, written ++ [entry (action s).1]), (action s).2) :=
  rfl

end Apply

section Transcribed

variable {σ : Type} (services : Services (StateM σ)) (transcript : Transcript) (s : σ)

theorem transcribed_decide (query : DecisionQuery) :
    services.transcribed.decide query transcript s
      = (((services.decide query s).1,
          transcript ++ [.decided query (services.decide query s).1]),
          (services.decide query s).2) :=
  rfl

theorem transcribed_execute (order : PaymentOrder) :
    services.transcribed.execute order transcript s
      = (((services.execute order s).1,
          transcript ++ [.executed order (services.execute order s).1]),
          (services.execute order s).2) :=
  rfl

theorem transcribed_report (feedback : Feedback) :
    services.transcribed.report feedback transcript s
      = (((services.report feedback s).1,
          transcript ++ [.reported feedback (services.report feedback s).1]),
          (services.report feedback s).2) :=
  rfl

theorem transcribed_rest (duration : Nat) :
    services.transcribed.rest duration transcript s
      = (((), transcript), (services.rest duration s).2) := by
  unfold rest
  split <;> rfl

end Transcribed

end Services

/-! ### Watching changes nothing -/

variable {σ : Type}

theorem Directory.resolve_lift {ω : Type} (d : Directory (StateM σ)) :
    (d.lift StateT.lift : Directory (StateT ω (StateM σ))).resolve = StateT.lift d.resolve := by
  unfold Directory.resolve Directory.lift
  cases d.source <;> cases d.fixed.isEmpty <;> rfl

namespace Coupling

/-- An action that keeps a record of type `ω` beside what another one does. -/
def forgetting (ω σ : Type) : Coupling (StateT ω (StateM σ)) (StateM σ) where
  Rel r x y := ∀ kept s, r (x kept s).1.1 (y s).1 ∧ (x kept s).2 = (y s).2
  rel_pure h _ _ := ⟨h, rfl⟩
  rel_bind := by
    intro _ _ _ _ r q x y f g hx hf kept s
    obtain ⟨hvalue, hstate⟩ := hx kept s
    have hnext := hf _ _ hvalue (x kept s).1.2 (x kept s).2
    rw [hstate] at hnext
    change q (f (x kept s).1.1 (x kept s).1.2 (x kept s).2).1.1 (g (y s).1 (y s).2).1 ∧
      (f (x kept s).1.1 (x kept s).1.2 (x kept s).2).2 = (g (y s).1 (y s).2).2
    rw [hstate]
    exact hnext

/-- Actions that keep two records side by side, of which `K` holds. -/
def keeping {α β : Type} (K : α → β → Prop) (σ : Type) :
    Coupling (StateT α (StateM σ)) (StateT β (StateM σ)) where
  Rel r x y := ∀ a b s, K a b →
    r (x a s).1.1 (y b s).1.1 ∧ K (x a s).1.2 (y b s).1.2 ∧ (x a s).2 = (y b s).2
  rel_pure h _ _ _ hkept := ⟨h, hkept, rfl⟩
  rel_bind := by
    intro _ _ _ _ r q x y f g hx hf a b s hkept
    obtain ⟨hvalue, hkept', hstate⟩ := hx a b s hkept
    have hnext := hf _ _ hvalue (x a s).1.2 (y b s).1.2 (x a s).2 hkept'
    change q (f (x a s).1.1 (x a s).1.2 (x a s).2).1.1 (g (y b s).1.1 (y b s).1.2 (y b s).2).1.1 ∧
      K (f (x a s).1.1 (x a s).1.2 (x a s).2).1.2 (g (y b s).1.1 (y b s).1.2 (y b s).2).1.2 ∧
      (f (x a s).1.1 (x a s).1.2 (x a s).2).2 = (g (y b s).1.1 (y b s).1.2 (y b s).2).2
    rw [← hstate]
    exact hnext

/-- An action that writes a transcript beside one that notes the same calls, as `Services.traced`
does. -/
def calling (σ : Type) :
    Coupling (StateT Transcript (StateM σ)) (StateT (Array Call) (StateM σ)) where
  Rel r x y := ∀ transcript calls s, calls.toList = List.map Entry.call transcript →
    r (x transcript s).1.1 (y calls s).1.1 ∧
      (y calls s).1.2.toList = List.map Entry.call (x transcript s).1.2 ∧
      (x transcript s).2 = (y calls s).2
  rel_pure h _ _ _ hcalls := ⟨h, hcalls, rfl⟩
  rel_bind := by
    exact (keeping (fun (transcript : Transcript) (calls : Array Call) =>
      calls.toList = List.map Entry.call transcript) σ).rel_bind

end Coupling

/-- In whatever `form` calls are written down, the services answer as before. -/
theorem Services.noted_forgetting {ε : Type} (form : Entry → ε) (services : Services (StateM σ)) :
    Coupled (.forgetting (List ε) σ) (services.noted form) services where
  decide _ _ _ := ⟨rfl, rfl⟩
  execute _ _ _ := ⟨rfl, rfl⟩
  report _ _ _ := ⟨rfl, rfl⟩
  wait _ _ _ := ⟨rfl, rfl⟩
  isCancelled _ _ := ⟨rfl, rfl⟩

/-- Writing a `call` down with its answer adds the call that noting it adds. -/
theorem Services.writing_calling {α : Type} (entry : α → Entry) (call : Call)
    (hcall : ∀ answer, (entry answer).call = call) (action : StateM σ α) :
    (Coupling.calling σ).Rel Eq (writing entry action) (noting call action) := by
  intro transcript calls s h
  refine ⟨rfl, ?_, rfl⟩
  change (calls.push call).toList = List.map Entry.call (transcript ++ [entry (action s).1])
  rw [Array.toList_push, h, List.map_append, List.map_singleton, hcall]

theorem Services.transcribed_calling (services : Services (StateM σ)) :
    Coupled (.calling σ) services.transcribed services.traced where
  decide query := writing_calling (.decided query) (.decide query) (fun _ => rfl) _
  execute order := writing_calling (.executed order) (.execute order) (fun _ => rfl) _
  report feedback := writing_calling (.reported feedback) (.report feedback) (fun _ => rfl) _
  wait _ _ _ _ h := ⟨rfl, h, rfl⟩
  isCancelled _ _ _ h := ⟨rfl, h, rfl⟩

namespace Session

/-- The `session` ends watched as it does unwatched. -/
theorem watch_fst (session : Session) (services : Services (StateM σ))
    (directory : Directory (StateM σ)) (entropy : Keystream) (s : σ) :
    (session.watch services directory entropy s).1
      = (session.run services directory entropy s).1 := by
  have hresolve : (Coupling.forgetting Transcript σ).Rel Eq
      (directory.lift StateT.lift).resolve directory.resolve := by
    rw [Directory.resolve_lift]
    exact fun _ _ => ⟨rfl, rfl⟩
  exact (session.run_coupled (services.noted_forgetting id) hresolve entropy [] s).1

/-- The calls of a transcript are those that are noted by the `traced` services. -/
theorem calls_of_watch (session : Session) (services : Services (StateM σ))
    (directory : Directory (StateM σ)) (entropy : Keystream) (s : σ) :
    (session.run services.traced (directory.lift StateT.lift) entropy #[] s).1.2.toList
      = (session.watch services directory entropy s).2.map Entry.call := by
  have hresolve : (Coupling.calling σ).Rel Eq (directory.lift StateT.lift).resolve
      (directory.lift StateT.lift).resolve := by
    rw [Directory.resolve_lift, Directory.resolve_lift]
    exact fun _ _ _ h => ⟨rfl, h, rfl⟩
  exact (session.run_coupled services.transcribed_calling hresolve entropy [] #[] s rfl).2.1

end Session

end RouterTrial
