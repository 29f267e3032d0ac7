import RouterTrial.CommandLine
import RouterTrial.Proofs.Coupling

/-!
# Coupled surroundings

The program knows as little of the monad that its surroundings act in as a trial knows of that of
its services. Surroundings that answer alike therefore give services and directories that answer
alike, and the program leaves the same behind in both of them.
-/

namespace RouterTrial

variable {m n : Type → Type} [Monad m] [Monad n]

/-- A function `f` of the values of two actions with the same value. -/
theorem Coupling.rel_map_eq [LawfulMonad m] [LawfulMonad n] (c : Coupling m n) {α γ : Type}
    {x : m α} {y : n α} (f : α → γ) (h : c.Rel Eq x y) : c.Rel Eq (f <$> x) (f <$> y) := by
  rw [map_eq_pure_bind, map_eq_pure_bind]
  exact c.rel_bind_eq h fun a => c.rel_pure rfl

/-- Surroundings `x` and `y` that answer alike. -/
structure Host.Coupled (c : Coupling m n) (x : Host m) (y : Host n) : Prop where
  exchange : ∀ r, c.Rel Eq (x.network.exchange r) (y.network.exchange r)
  token : c.Rel Eq x.token y.token
  wait : ∀ duration, c.Rel Eq (x.wait duration) (y.wait duration)
  isCancelled : c.Rel Eq x.isCancelled y.isCancelled
  now : c.Rel Eq x.now y.now
  entropy : c.Rel Eq x.entropy y.entropy

variable {c : Coupling m n} {x : Host m} {y : Host n}

theorem Host.Coupled.send (h : Host.Coupled c x y) (r : Request) :
    c.Rel Eq (x.network.send r) (y.network.send r) := by
  unfold Network.send
  split
  · exact h.exchange r
  · exact c.rel_pure rfl

/-! ### Directories and summarizers -/

/-- Directories `d` and `e` that differ in their sources only, which answer alike, find the same
roster. -/
theorem Directory.resolve_coupled {d : Directory m} {e : Directory n} (hfixed : d.fixed = e.fixed)
    (hprofile : d.profile = e.profile) (hsource : Option.Rel (c.Rel Eq) d.source e.source) :
    c.Rel Eq d.resolve e.resolve := by
  obtain ⟨fixed, profile, source⟩ := d
  obtain ⟨fixed', profile', source'⟩ := e
  obtain rfl : fixed = fixed' := hfixed
  obtain rfl : profile = profile' := hprofile
  unfold Directory.resolve
  split
  · cases hsource with
    | none => exact c.rel_pure rfl
    | some hask => exact c.rel_bind_eq hask fun answer => c.rel_pure rfl
  · exact c.rel_pure rfl

/-- Summarizers that answer alike give the same report on the ledger `l`. -/
theorem Ledger.reportWith_coupled (l : Ledger) (generatedAt : Instant)
    {summarizer : Option (Summarizer m)} {summarizer' : Option (Summarizer n)}
    (h : Option.Rel (fun f g => ∀ records, c.Rel Eq (f records) (g records)) summarizer
      summarizer') :
    c.Rel Eq (l.reportWith generatedAt summarizer) (l.reportWith generatedAt summarizer') := by
  cases h with
  | none => exact c.rel_pure rfl
  | some hask => exact c.rel_bind_eq (hask l.records) fun answer => c.rel_pure rfl

/-! ### The program -/

variable [LawfulMonad m] [LawfulMonad n]

namespace Settings

theorem services_coupled (h : Host.Coupled c x y) (s : Settings) :
    Services.Coupled c (s.services x) (s.services y) where
  decide _ := c.rel_map_eq _ (h.send _)
  execute _ := c.rel_bind_eq (h.send _) fun _ => c.rel_bind_eq h.token fun _ => c.rel_pure rfl
  report _ := c.rel_map_eq _ (h.send _)
  wait := h.wait
  isCancelled := h.isCancelled

theorem resolve_coupled (h : Host.Coupled c x y) (s : Settings) :
    c.Rel Eq (s.directory x).resolve (s.directory y).resolve := by
  refine Directory.resolve_coupled rfl rfl ?_
  unfold directory
  cases s.listingService? with
  | none => exact .none
  | some service => exact .some (c.rel_map_eq _ (h.send _))

theorem summarizer_coupled (h : Host.Coupled c x y) (s : Settings) :
    Option.Rel (fun f g => ∀ records, c.Rel Eq (f records) (g records)) (s.summarizer x)
      (s.summarizer y) := by
  unfold summarizer
  cases s.summaryService? with
  | none => exact .none
  | some service => exact .some fun records => c.rel_map_eq _ (h.send _)

end Settings

namespace CommandLine

/-- In surroundings `x` and `y` that answer alike the program ends alike, whatever is in `view` of
it. -/
theorem perform_coupled {α : Type} (view : Ending → α) (h : Host.Coupled c x y)
    (environment : Lookup) :
    c.Rel Eq (perform view x environment) (perform view y environment) := by
  unfold perform
  cases hsession : Session.ofSettings? (.ofLookup environment) with
  | error cause =>
    simp only [hsession]
    exact c.rel_pure rfl
  | ok session =>
    simp only [hsession]
    refine c.rel_bind_eq h.entropy fun entropy => ?_
    refine c.rel_bind_eq (Session.run_coupled (Settings.services_coupled h _)
      (Settings.resolve_coupled h _) session entropy) fun ending => ?_
    cases ending.result with
    | error fault => exact c.rel_pure rfl
    | ok trialRun =>
      refine c.rel_bind_eq h.now fun now => ?_
      exact c.rel_bind_eq (Ledger.reportWith_coupled _ _ (Settings.summarizer_coupled h _))
        fun reported => c.rel_pure rfl

/-- In surroundings `x` and `y` that answer alike the program leaves the same behind. -/
theorem run_coupled (h : Host.Coupled c x y) (environment : Lookup) :
    c.Rel Eq (run x environment) (run y environment) :=
  perform_coupled Ending.exit h environment

end CommandLine

end RouterTrial
