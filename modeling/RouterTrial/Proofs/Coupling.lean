import RouterTrial.Session

/-!
# Coupled services

A trial knows nothing of the monad that its services act in but how to do one thing after another.
So if two sets of services answer alike, in whatever sense two monads can be compared, then so do
the trials that call them. This is how it is shown that watching a trial does not change it.
-/

namespace RouterTrial

variable {m n : Type → Type} [Monad m] [Monad n]

/-! ### Comparing two monads -/

/-- A way to compare what is done in the monads `m` and `n`, given a way to compare the values. -/
structure Coupling (m n : Type → Type) [Monad m] [Monad n] where
  Rel : {α β : Type} → (α → β → Prop) → m α → n β → Prop
  rel_pure : ∀ {α β : Type} {r : α → β → Prop} {a : α} {b : β}, r a b → Rel r (pure a) (pure b)
  rel_bind : ∀ {α β γ δ : Type} {r : α → β → Prop} {q : γ → δ → Prop} {x : m α} {y : n β}
    {f : α → m γ} {g : β → n δ},
    Rel r x y → (∀ a b, r a b → Rel q (f a) (g b)) → Rel q (x >>= f) (y >>= g)

/-- After two actions `x` and `y` with the same value the same is done on both sides. -/
theorem Coupling.rel_bind_eq (c : Coupling m n) {α γ : Type} {x : m α} {y : n α} {f : α → m γ}
    {g : α → n γ} (hx : c.Rel Eq x y) (hf : ∀ a, c.Rel Eq (f a) (g a)) :
    c.Rel Eq (x >>= f) (y >>= g) := by
  refine c.rel_bind hx fun a b hab => ?_
  rw [hab]
  exact hf b

/-- Services `x` and `y` that answer alike. -/
structure Services.Coupled (c : Coupling m n) (x : Services m) (y : Services n) : Prop where
  decide : ∀ query, c.Rel Eq (x.decide query) (y.decide query)
  execute : ∀ order, c.Rel Eq (x.execute order) (y.execute order)
  report : ∀ feedback, c.Rel Eq (x.report feedback) (y.report feedback)
  wait : ∀ duration, c.Rel Eq (x.wait duration) (y.wait duration)
  isCancelled : c.Rel Eq x.isCancelled y.isCancelled

variable {c : Coupling m n} {x : Services m} {y : Services n}

theorem Services.Coupled.rest (h : Services.Coupled c x y) (duration : Nat) :
    c.Rel Eq (x.rest duration) (y.rest duration) := by
  unfold Services.rest
  split
  · exact c.rel_pure rfl
  · exact h.wait duration

/-! ### Trials -/

namespace Trial

variable {G : Type} [WordSource G]

theorem attempt_coupled (h : Services.Coupled c x y) (t : Trial) (roster : Roster) (index : Nat)
    (w : Window) (g : G) :
    c.Rel Eq (t.attempt x roster index w g) (t.attempt y roster index w g) := by
  unfold attempt
  refine c.rel_bind_eq (h.decide _) fun decision => ?_
  cases place roster decision with
  | skip reason => exact c.rel_pure rfl
  | pay connector account =>
    refine c.rel_bind_eq (h.execute _) fun answer => ?_
    exact c.rel_bind_eq (h.report _) fun acknowledged => c.rel_pure rfl

theorem attempts_coupled (h : Services.Coupled c x y) (t : Trial) (roster : Roster)
    (left index : Nat) (g : G) :
    c.Rel Eq (t.attempts x roster left index g) (t.attempts y roster left index g) := by
  -- on the attempts that are left, whatever the number and the words that the next one starts from
  induction left generalizing index g with
  | zero => exact c.rel_pure rfl
  | succ left ih =>
    rw [attempts, attempts]
    refine c.rel_bind_eq h.isCancelled fun cancelled => ?_
    split
    · exact c.rel_pure rfl
    · cases t.schedule.window? index with
      | none => exact ih (index + 1) g
      | some w =>
        refine c.rel_bind_eq (attempt_coupled h t roster index w g) fun made => ?_
        refine c.rel_bind_eq (h.rest _) fun _ => ?_
        exact c.rel_bind_eq (ih (index + 1) made.2) fun more => c.rel_pure rfl

theorem run_coupled (h : Services.Coupled c x y) (t : Trial) (roster : Roster)
    (entropy : Keystream) :
    c.Rel Eq (t.run x roster entropy) (t.run y roster entropy) := by
  unfold run
  refine c.rel_bind_eq (h.rest _) fun _ => ?_
  exact c.rel_bind_eq (attempts_coupled h t roster _ 1 _) fun progress => c.rel_pure rfl

end Trial

/-- Sessions with services and directories that answer alike (`Services.Coupled`) end alike. -/
theorem Session.run_coupled (h : Services.Coupled c x y) {d : Directory m} {e : Directory n}
    (hd : c.Rel Eq d.resolve e.resolve) (s : Session) (entropy : Keystream) :
    c.Rel Eq (s.run x d entropy) (s.run y e entropy) := by
  unfold Session.run
  cases s.state with
  | running | completed => exact c.rel_pure rfl
  | idle =>
    refine c.rel_bind_eq hd fun resolved => ?_
    cases resolved.1 with
    | error cause => exact c.rel_pure rfl
    | ok roster =>
      exact c.rel_bind_eq (Trial.run_coupled h s.trial roster entropy) fun ran => c.rel_pure rfl

end RouterTrial
