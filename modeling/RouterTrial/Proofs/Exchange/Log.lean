import Mathlib.Data.List.Forall2
import RouterTrial.Proofs.Exchange.Coupling
import RouterTrial.Proofs.Transcript

/-!
# The log of the exchanges

Surroundings with a log write down every exchange that the program makes over the network, in order
(`Host.logged`), and the program leaves the same behind with and without it
(`CommandLine.watch_fst`).

A request that cannot be sent never reaches the network. What is said of the program is therefore
said of all requests that it attempts, and the log has those of them that were sent (`sent`). Each
call of a service is attempted as one request (`Exchanged`), and what the service answers is read
from the answer to that.
-/

namespace RouterTrial

/-- A request with the answer to it. -/
structure Exchange where
  request : Request
  answer : Answer
  deriving Repr, DecidableEq

/-- Those `exchanges` whose requests can be sent. -/
def sent (exchanges : List Exchange) : List Exchange :=
  exchanges.filter fun e => e.request.isSendable

theorem sent_append (l l' : List Exchange) : sent (l ++ l') = sent l ++ sent l' :=
  List.filter_append _ _

/-! ### Surroundings with a log -/

section Logged

variable {m : Type → Type} [Monad m]

/-- The network `n` with every exchange written down in order. -/
def Network.logged (n : Network m) : Network (StateT (List Exchange) m) where
  exchange r := fun log => do
    let answer ← n.exchange r
    return (answer, log ++ [⟨r, answer⟩])

/-- The surroundings `h` with every exchange written down in order. -/
def Host.logged (h : Host m) : Host (StateT (List Exchange) m) where
  network := h.network.logged
  token := StateT.lift h.token
  wait duration := StateT.lift (h.wait duration)
  isCancelled := StateT.lift h.isCancelled
  now := StateT.lift h.now
  entropy := StateT.lift h.entropy

end Logged

variable {σ : Type}

/-- Runs the program from the state `s` of its surroundings, and writes down the exchanges that it
makes. -/
def CommandLine.watch (host : Host (StateM σ)) (environment : Lookup) (s : σ) :
    Exit × List Exchange :=
  (run host.logged environment [] s).1

theorem Host.logged_forgetting (host : Host (StateM σ)) :
    Coupled (.forgetting (List Exchange) σ) host.logged host where
  exchange _ _ _ := ⟨rfl, rfl⟩
  token _ _ := ⟨rfl, rfl⟩
  wait _ _ _ := ⟨rfl, rfl⟩
  isCancelled _ _ := ⟨rfl, rfl⟩
  now _ _ := ⟨rfl, rfl⟩
  entropy _ _ := ⟨rfl, rfl⟩

/-- The program leaves the same behind with the log of `watch` as without it. -/
theorem CommandLine.watch_fst (host : Host (StateM σ)) (environment : Lookup) (s : σ) :
    (watch host environment s).1 = (run host environment s).1 :=
  (run_coupled host.logged_forgetting environment [] s).1

/-! ### What is attempted -/

/-- The exchange `e` is attempted: its request is sent, or it counts as failed. -/
def Exchange.Attempted (e : Exchange) : Prop := e.request.isSendable = false → e.answer = .failed

/-- An attempt to send the request `r` adds what is sent of it to the `log`. -/
theorem Host.exists_send_logged (host : Host (StateM σ)) (r : Request) (log : List Exchange)
    (s : σ) :
    let answered := host.network.send r s
    host.logged.network.send r log s
        = ((answered.1, log ++ sent [⟨r, answered.1⟩]), answered.2) ∧
      Exchange.Attempted ⟨r, answered.1⟩ := by
  unfold Network.send sent Exchange.Attempted
  cases hsendable : r.isSendable with
  | false =>
    refine ⟨?_, fun _ => rfl⟩
    simp only [Bool.false_eq_true, if_false, hsendable, List.filter_cons, List.filter_nil,
      List.append_nil]
    rfl
  | true =>
    refine ⟨?_, fun h => absurd (hsendable.symm.trans h) nofun⟩
    simp only [if_true, hsendable, List.filter_cons, List.filter_nil]
    rfl

namespace Settings

/-- The request by which a call of a service is attempted, and how the answer is read. -/
inductive Exchanged (s : Settings) : Exchange → Entry → Prop
  | decided (query : DecisionQuery) (answer : Answer) :
      Exchanged s ⟨s.decisionService.queryRequest query, answer⟩
        (.decided query (DecisionService.readDecision answer))
  | executed (order : PaymentOrder) (answer : Answer) (token : String) :
      Exchanged s ⟨s.paymentService.orderRequest order, answer⟩
        (.executed order (PaymentService.readAnswer token order answer))
  | reported (feedback : Feedback) (answer : Answer) :
      Exchanged s ⟨s.decisionService.feedbackRequest feedback, answer⟩
        (.reported feedback (DecisionService.readAcknowledgement answer))

/-- The `log` has, behind what it had `before`, the requests that were sent for the calls of the
`transcript`. -/
def Logs (s : Settings) (before : List Exchange) (transcript : Transcript) (log : List Exchange) :
    Prop :=
  ∃ attempted, List.Forall₂ s.Exchanged attempted transcript ∧
    (∀ e ∈ attempted, e.Attempted) ∧ log = before ++ sent attempted

theorem Logs.append {s : Settings} {before log : List Exchange} {transcript : Transcript}
    {e : Exchange} {entry : Entry} (h : s.Logs before transcript log) (hentry : s.Exchanged e entry)
    (he : e.Attempted) : s.Logs before (transcript ++ [entry]) (log ++ sent [e]) := by
  obtain ⟨attempted, hexchanged, hattempted, rfl⟩ := h
  refine ⟨attempted ++ [e], ?_, ?_, ?_⟩
  · exact List.rel_append hexchanged (.cons hentry .nil)
  · intro e' he'
    rcases List.mem_append.mp he' with he' | he'
    · exact hattempted e' he'
    · rw [List.mem_singleton.mp he']
      exact he
  · rw [sent_append, List.append_assoc]

end Settings

/-! ### Calls and exchanges side by side -/

namespace Settings

open Services (bind_apply map_apply writing_apply)

variable {s : Settings} {host : Host (StateM σ)} {before : List Exchange}

/-- A call for which one request `r` is attempted is written down in both records. -/
private theorem writing_logged {α : Type} {r : Request} (read : Answer → α) (entry : α → Entry)
    (h : ∀ answer, s.Exchanged ⟨r, answer⟩ (entry (read answer))) {action : StateM σ α}
    {logged : StateT (List Exchange) (StateM σ) α} (haction : action = read <$> host.network.send r)
    (hlogged : logged = read <$> host.logged.network.send r) :
    (Coupling.keeping (s.Logs before) σ).Rel Eq (Services.writing entry action) logged := by
  intro transcript log state hlogs
  obtain ⟨hsend, hattempted⟩ := host.exists_send_logged r log state
  rw [haction, hlogged, writing_apply, map_apply, hsend]
  exact ⟨rfl, hlogs.append (h _) hattempted, rfl⟩

/-- The payment of `order` is written down in both records. -/
private theorem execute_logged (order : PaymentOrder) :
    (Coupling.keeping (s.Logs before) σ).Rel Eq
      (Services.writing (.executed order)
        (s.paymentService.execute host.network host.token order))
      (s.paymentService.execute host.logged.network host.logged.token order) := by
  intro transcript log state hlogs
  obtain ⟨hsend, hattempted⟩ :=
    host.exists_send_logged (s.paymentService.orderRequest order) log state
  unfold PaymentService.execute
  rw [writing_apply, bind_apply, hsend, stateM_bind_apply]
  generalize host.network.send (s.paymentService.orderRequest order) state = answered
    at hattempted
  exact ⟨rfl, hlogs.append (.executed order _ _) hattempted, rfl⟩

/-- The transcript of the services and the log of the surroundings grow side by side, as `Logs`
says. -/
theorem transcribed_logged (s : Settings) (host : Host (StateM σ)) (before : List Exchange) :
    Services.Coupled (.keeping (s.Logs before) σ) (s.services host).transcribed
      (s.services host.logged) where
  -- a call has to be written out before the two sides are compared: left to itself the comparison
  -- would go on into what the requests are made of
  decide query := by
    have hcall : (s.services host).transcribed.decide query
        = Services.writing (.decided query) ((s.services host).decide query) := rfl
    rw [hcall]
    exact writing_logged _ _ (.decided query) rfl rfl
  execute order := by
    have hcall : (s.services host).transcribed.execute order
        = Services.writing (.executed order)
          (s.paymentService.execute host.network host.token order) := rfl
    have hcall' : (s.services host.logged).execute order
        = s.paymentService.execute host.logged.network host.logged.token order := rfl
    rw [hcall, hcall']
    exact execute_logged order
  report feedback := by
    have hcall : (s.services host).transcribed.report feedback
        = Services.writing (.reported feedback) ((s.services host).report feedback) := rfl
    rw [hcall]
    exact writing_logged _ _ (.reported feedback) rfl rfl
  wait _ _ _ _ hlogs := ⟨rfl, hlogs, rfl⟩
  isCancelled _ _ _ hlogs := ⟨rfl, hlogs, rfl⟩

end Settings

/-! ### Listings and summaries -/

/-- The `logged` action does what `action` does, and attempts these `requests` for it. -/
def Asks {α : Type} (requests : List Request) (logged : StateT (List Exchange) (StateM σ) α)
    (action : StateM σ α) : Prop :=
  ∀ log state, ∃ exchanges : List Exchange, exchanges.map (·.request) = requests ∧
    (∀ e ∈ exchanges, e.Attempted) ∧
    logged log state = (((action state).1, log ++ sent exchanges), (action state).2)

namespace Asks

variable {α β : Type} {r : Request} {host : Host (StateM σ)}

theorem of_pure (a : α) : Asks [] (pure a) (pure a : StateM σ α) := by
  intro log state
  refine ⟨[], rfl, nofun, ?_⟩
  rw [sent, List.filter_nil, List.append_nil]
  rfl

theorem map_send (read : Answer → α) :
    Asks [r] (read <$> host.logged.network.send r) (read <$> host.network.send r) := by
  intro log state
  obtain ⟨hsend, hattempted⟩ := host.exists_send_logged r log state
  refine ⟨[⟨r, (host.network.send r state).1⟩], rfl, ?_, ?_⟩
  · intro e he
    rw [List.mem_singleton.mp he]
    exact hattempted
  · rw [Services.map_apply, hsend]
    rfl

/-- What `f` makes of the value behind the last request. -/
theorem bind_pure {requests : List Request} {logged : StateT (List Exchange) (StateM σ) α}
    {action : StateM σ α} (h : Asks requests logged action) (f : α → β) :
    Asks requests (do return f (← logged)) (do return f (← action)) := by
  intro log state
  obtain ⟨exchanges, hrequests, hattempted, hlogged⟩ := h log state
  refine ⟨exchanges, hrequests, hattempted, ?_⟩
  rw [Services.bind_apply, hlogged]
  rfl

end Asks

namespace Settings

/-- The request for the listings, if the settings `s` ask for any. -/
def listingRequests (s : Settings) : List Request :=
  if s.connectors.isEmpty then s.listingService?.toList.map (·.request) else []

/-- The request for a summary of `records`, if the settings `s` ask for one. -/
def summaryRequests (s : Settings) (records : List Record) : List Request :=
  s.summaryService?.toList.map (·.request records)

/-- The roster is found as without the log, and the `listingRequests` are attempted for it. -/
theorem resolve_logged (s : Settings) (host : Host (StateM σ)) :
    Asks s.listingRequests (s.directory host.logged).resolve (s.directory host).resolve := by
  unfold Directory.resolve directory listingRequests
  cases s.connectors.isEmpty with
  | false => exact .of_pure _
  | true =>
    cases s.listingService? with
    | none => exact .of_pure _
    | some service => exact (Asks.map_send _).bind_pure _

/-- The report is made as without the log, and the `summaryRequests` are attempted for it. -/
theorem reportWith_logged (s : Settings) (host : Host (StateM σ)) (l : Ledger) (now : Instant) :
    Asks (s.summaryRequests l.records) (l.reportWith now (s.summarizer host.logged))
      (l.reportWith now (s.summarizer host)) := by
  unfold Ledger.reportWith summarizer summaryRequests
  cases s.summaryService? with
  | none => exact .of_pure _
  | some service => exact (Asks.map_send _).bind_pure _

end Settings

end RouterTrial
