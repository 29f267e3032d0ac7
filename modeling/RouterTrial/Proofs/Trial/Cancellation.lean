import RouterTrial.Proofs.Trial.Accounts
import RouterTrial.Proofs.Trial.Course

/-!
# Cancellation

A trial looks whether it has been cancelled before each attempt and nowhere else. So a run in which
the wish to stop comes up at some moment is the run in which it never comes up, cut behind the
attempt of that moment: the attempt is made to its end, and nothing is done after it.

The wish comes up in the course of the calls: `Services.flagged` are services that answer as the
given ones do, and for which the trial is cancelled as soon as the calls so far say so. Two runs
over the same services are followed side by side, and stay the same up to the head of the first
attempt at which the trial has been cancelled.
-/

namespace RouterTrial

open Services (bind_apply pure_apply lift_apply transcribed_rest)

/-! ### The moment of a cancellation -/

/-- The services with every call written down. The trial is cancelled if the calls so far have
`raised` the wish to stop it. -/
def Services.flagged {σ : Type} (services : Services (StateM σ)) (raised : Transcript → Bool) :
    Services (StateT Transcript (StateM σ)) :=
  { services.transcribed with
    isCancelled := fun transcript s => ((raised transcript, transcript), s) }

/-- Runs the `session` from the state `s` of its services, with a wish to stop that is `raised` in
the course of the calls, and writes its transcript. -/
def Session.runUntil {σ : Type} (session : Session) (services : Services (StateM σ))
    (directory : Directory (StateM σ)) (entropy : Keystream) (s : σ) (raised : Transcript → Bool) :
    Ending × Transcript :=
  (session.run (services.flagged raised) (directory.lift StateT.lift) entropy [] s).1

/-- Nobody ever wishes to stop. -/
def neverRaised : Transcript → Bool := fun _ => false

/-! ### Restrictions -/

/-- The identifier of the attempt that an entry belongs to. -/
def Entry.id : Entry → AttemptId
  | decided query _ => query.id
  | executed order _ => order.id
  | reported feedback _ => feedback.id

/-- The identifiers of `count` attempts, those from the number `start` on. -/
def idsFrom (start count : Nat) : List AttemptId := (List.range' start count).map .ofIndex

/-- The entries of the first `count` attempts. -/
def Transcript.upTo (t : Transcript) (count : Nat) : Transcript :=
  t.filter (·.id ∈ idsFrom 1 count)

/-- The element `x` of the first list has its partner in the second one. -/
private theorem exists_of_forall₂ {α β : Type} {R : α → β → Prop} {xs : List α} {ys : List β}
    (h : List.Forall₂ R xs ys) {x : α} (hx : x ∈ xs) : ∃ y ∈ ys, R x y := by
  induction h with
  | nil => cases hx
  | @cons a b _ _ hab _ ih =>
    rcases List.mem_cons.mp hx with rfl | hx
    · exact ⟨b, List.mem_cons_self, hab⟩
    · obtain ⟨y, hy, hxy⟩ := ih hx
      exact ⟨y, List.mem_cons_of_mem _ hy, hxy⟩

/-- Of `groups` that belong to one attempt after the other, those of the first `count` attempts are
the first so many. -/
private theorem filter_flatten_eq {α : Type} {idOf : α → AttemptId} {start count : Nat}
    {groups : List (List α)} (hcount : count ≤ groups.length)
    (h : List.Forall₂ (fun group index => ∀ a ∈ group, idOf a = .ofIndex index) groups
      (List.range' start groups.length)) :
    groups.flatten.filter (idOf · ∈ idsFrom start count) = (groups.take count).flatten := by
  -- the numbers are split where the groups are, and no identifier belongs to both parts
  have hnumbers : List.range' start groups.length
      = List.range' start count ++ List.range' (start + count) (groups.length - count) := by
    rw [List.range'_append_1, Nat.add_sub_cancel' hcount]
  rw [hnumbers] at h
  have hfirst := List.forall₂_take_append _ _ _ h
  have hrest := List.forall₂_drop_append _ _ _ h
  rw [List.length_range'] at hfirst hrest
  have hin : ∀ a ∈ (groups.take count).flatten, idOf a ∈ idsFrom start count := by
    intro a ha
    obtain ⟨group, hgroup, hagroup⟩ := List.mem_flatten.mp ha
    obtain ⟨index, hindex, hid⟩ := exists_of_forall₂ hfirst hgroup
    exact List.mem_map.mpr ⟨index, hindex, (hid a hagroup).symm⟩
  have hout : ∀ a ∈ (groups.drop count).flatten, idOf a ∉ idsFrom start count := by
    intro a ha hmem
    obtain ⟨group, hgroup, hagroup⟩ := List.mem_flatten.mp ha
    obtain ⟨index, hindex, hid⟩ := exists_of_forall₂ hrest hgroup
    obtain ⟨index', hindex', hid'⟩ := List.mem_map.mp hmem
    have hsame : index' = index := AttemptId.ofIndex_injective (hid'.trans (hid a hagroup))
    rw [List.mem_range'_1] at hindex hindex'
    omega
  have hsplit : groups.flatten = (groups.take count).flatten ++ (groups.drop count).flatten := by
    rw [← List.flatten_append, List.take_append_drop]
  rw [hsplit, List.filter_append, List.filter_eq_self.mpr, List.filter_eq_nil_iff.mpr,
    List.append_nil]
  · intro a ha
    rw [decide_eq_true_iff]
    exact hout a ha
  · intro a ha
    rw [decide_eq_true_iff]
    exact hin a ha

namespace Trial

variable {G : Type} [WordSource G]

/-! ### Attempts side by side -/

/-- The `entries` of an attempt belong to it. -/
theorem Attempted.id_of_mem {t : Trial} {roster : Roster} {index : Nat} {g g' : G}
    {entries : Transcript} {outcome : Outcome}
    (h : Attempted t roster index g entries outcome g') :
    ∀ entry ∈ entries, entry.id = .ofIndex index := by
  cases h with
  | skipped _ _ =>
    intro entry hentry
    rw [List.mem_singleton.mp hentry]
    rfl
  | paid _ _ =>
    intro entry hentry
    simp only [List.mem_cons, List.not_mem_nil, or_false] at hentry
    rcases hentry with rfl | rfl | rfl <;> rfl

/-- All attempts that are `left` have been made, and each has written its block. -/
structure Uncut (t : Trial) (roster : Roster) (index left : Nat) (before : Transcript)
    (full : Progress G × Transcript) (blocks : List Transcript) : Prop where
  made : List.Forall₂ (fun block step =>
    ∃ g g', t.Attempted (G := G) roster step.index g block step.outcome g') blocks full.1.steps
  numbers : full.1.steps.map (·.index) = List.range' index left
  whole : full.2 = before ++ blocks.flatten
  uncancelled : full.1.cancelled = false

/-- Of the attempts that are `left`, `count` have been made before the wish to stop came up. -/
structure CutBehind (raised : Transcript → Bool) (left : Nat) (before : Transcript)
    (full cut : Progress G × Transcript) (blocks : List Transcript) (count : Nat) : Prop where
  steps : cut.1.steps = full.1.steps.take count
  transcript : cut.2 = before ++ (blocks.take count).flatten
  count_le : count ≤ left
  cancelled : cut.1.cancelled = true ↔ count < left
  unraised : ∀ made < count, raised (before ++ (blocks.take made).flatten) = false
  raised : count < left → raised (before ++ (blocks.take count).flatten) = true

section Steps

variable {t : Trial} {roster : Roster} {raised : Transcript → Bool} {index left count : Nat}
  {before entries : Transcript} {full cut : Progress G × Transcript} {blocks : List Transcript}
  {step : Step}

/-- The attempts that are `left` with one more before them. -/
theorem Uncut.cons {g g' : G} (hindex : step.index = index)
    (hmade : t.Attempted roster index g entries step.outcome g')
    (h : Uncut t roster (index + 1) left (before ++ entries) full blocks) :
    Uncut t roster index (left + 1) before
      (⟨step :: full.1.steps, full.1.cancelled, full.1.source⟩, full.2) (entries :: blocks) where
  made := .cons ⟨g, g', hindex ▸ hmade⟩ h.made
  numbers := by rw [List.map_cons, hindex, h.numbers, List.range'_succ]
  whole := by rw [h.whole, List.append_assoc, List.flatten_cons]
  uncancelled := h.uncancelled

omit [WordSource G] in
/-- Once the wish to stop has been `raised`, no attempt more is made. -/
theorem CutBehind.zero (hraised : raised before = true) (g : G) :
    CutBehind raised (left + 1) before full (⟨[], true, g⟩, before) blocks 0 where
  steps := List.take_zero.symm
  transcript := (List.append_nil before).symm
  count_le := Nat.zero_le _
  cancelled := ⟨fun _ => Nat.zero_lt_succ left, fun _ => rfl⟩
  unraised := nofun
  raised _ := by
    rw [List.take_zero, List.flatten_nil, List.append_nil]
    exact hraised

omit [WordSource G] in
/-- As long as the wish to stop has not been `raised`, one attempt more is made. -/
theorem CutBehind.succ (hraised : raised before = false)
    (h : CutBehind raised left (before ++ entries) full cut blocks count) :
    CutBehind raised (left + 1) before
      (⟨step :: full.1.steps, full.1.cancelled, full.1.source⟩, full.2)
      (⟨step :: cut.1.steps, cut.1.cancelled, cut.1.source⟩, cut.2) (entries :: blocks)
      (count + 1) where
  steps := by rw [List.take_succ_cons, h.steps]
  transcript := by
    rw [h.transcript, List.take_succ_cons, List.flatten_cons, List.append_assoc]
  count_le := Nat.succ_le_succ h.count_le
  cancelled := h.cancelled.trans Nat.succ_lt_succ_iff.symm
  unraised made hmade := by
    cases made with
    | zero =>
      rw [List.take_zero, List.flatten_nil, List.append_nil]
      exact hraised
    | succ made =>
      rw [List.take_succ_cons, List.flatten_cons, ← List.append_assoc]
      exact h.unraised made (Nat.lt_of_succ_lt_succ hmade)
  raised hcount := by
    rw [List.take_succ_cons, List.flatten_cons, ← List.append_assoc]
    exact h.raised (Nat.lt_of_succ_lt_succ hcount)

end Steps

section Unfolding

variable {σ : Type} {t : Trial} (services : Services (StateM σ)) {raised : Transcript → Bool}
  (roster : Roster) (left : Nat) {index : Nat} (g : G) {transcript : Transcript} (s : σ)

/-- No attempt is made once the wish to stop has been `raised`. -/
private theorem attempts_flagged_of_raised (h : raised transcript = true) :
    t.attempts (services.flagged raised) roster (left + 1) index g transcript s
      = ((⟨[], true, g⟩, transcript), s) := by
  rw [attempts]
  change (if raised transcript = true then _ else _ : StateT Transcript (StateM σ) _)
    transcript s = _
  rw [if_pos h]
  rfl

/-- Before the wish to stop has been `raised`, the next attempt does not depend on when it will
be. -/
private theorem attempts_flagged_of_unraised {w : Window} (h : raised transcript = false)
    (hwindow : t.schedule.window? index = some w) :
    let made := t.attempt services.transcribed roster index w g transcript s
    let s' := (services.rest (if left = 0 then 0 else t.pause) made.2).2
    let more := (t.attempts (services.flagged raised) roster left (index + 1) made.1.1.2 made.1.2
      s').1
    (t.attempts (services.flagged raised) roster (left + 1) index g transcript s).1
      = (⟨made.1.1.1 :: more.1.steps, more.1.cancelled, more.1.source⟩, more.2) := by
  rw [attempts]
  change ((if raised transcript = true then _ else _ : StateT Transcript (StateM σ) _)
    transcript s).1 = _
  rw [if_neg (Bool.eq_false_iff.mp h), hwindow]
  have hrest : ∀ duration, (services.flagged raised).rest duration
      = services.transcribed.rest duration := fun _ => rfl
  have hattempt : t.attempt (services.flagged raised) roster index w g
      = t.attempt services.transcribed roster index w g := rfl
  simp only [bind_apply, pure_apply, hrest, hattempt, transcribed_rest]

end Unfolding

/-- **Run.** The attempts that are `left` are the same with and without a wish to stop, up to the
first one before which it has come up. -/
private theorem exists_cut {σ : Type} (t : Trial) (services : Services (StateM σ)) (roster : Roster)
    (raised : Transcript → Bool) (left index : Nat) (hindex : 1 ≤ index)
    (hleft : index + left = t.schedule.total + 1) (g : G) (before : Transcript) (s : σ) :
    let full := (t.attempts (services.flagged neverRaised) roster left index g before s).1
    let cut := (t.attempts (services.flagged raised) roster left index g before s).1
    ∃ blocks count, Uncut t roster index left before full blocks ∧
      CutBehind raised left before full cut blocks count := by
  -- both runs come to the next attempt with the same state of the services and of the words
  induction left generalizing index g before s with
  | zero =>
    exact ⟨[], 0, ⟨.nil, rfl, (List.append_nil _).symm, rfl⟩, rfl, (List.append_nil _).symm,
      Nat.le_refl 0, ⟨nofun, nofun⟩, nofun, nofun⟩
  | succ left ih =>
    obtain ⟨w, hwindow⟩ := Schedule.exists_window? hindex (show index ≤ t.schedule.total by omega)
    obtain ⟨entries, hentries, hnumber, hmade⟩ := attempted_of_attempt t services roster hwindow g
      before s
    have hunraised : neverRaised before = false := rfl
    have hfull := attempts_flagged_of_unraised services roster left g s hunraised hwindow
    generalize hattempt : t.attempt services.transcribed roster index w g before s = made
      at hentries hnumber hmade hfull
    obtain ⟨⟨⟨step, g'⟩, after⟩, s'⟩ := made
    obtain rfl : after = before ++ entries := hentries
    obtain ⟨blocks, count, huncut, hcut⟩ := ih (index + 1) (by omega) (by omega) g'
      (before ++ entries) (services.rest (if left = 0 then 0 else t.pause) s').2
    rw [hfull]
    cases hraised : raised before with
    | true =>
      rw [attempts_flagged_of_raised services roster left g s hraised]
      exact ⟨entries :: blocks, 0, huncut.cons hnumber hmade, .zero hraised g⟩
    | false =>
      have hnext := attempts_flagged_of_unraised services roster left g s hraised hwindow
      rw [hattempt] at hnext
      rw [hnext]
      exact ⟨entries :: blocks, count + 1, huncut.cons hnumber hmade, hcut.succ hraised⟩

/-! ### Restrictions of a run -/

/-- The run `cut` is what `full` has of its first `count` attempts, and so are its calls. -/
structure Run.RestrictsTo (full cut : Run) (transcript transcript' : Transcript) (count : Nat) :
    Prop where
  processed : cut.processed = count
  steps : cut.steps = full.steps.take count
  records : cut.ledger.records = full.ledger.records.filter (·.id ∈ idsFrom 1 count)
  skips : cut.ledger.skips = full.ledger.skips.filter (·.id ∈ idsFrom 1 count)
  transcript : transcript' = transcript.upTo count

section Uncut

variable {t : Trial} {roster : Roster} {left : Nat} {full cut : Progress G × Transcript}
  {blocks : List Transcript}

private theorem Uncut.length_steps (h : Uncut t roster 1 left [] full blocks) :
    full.1.steps.length = left := by
  rw [← List.length_map (·.index), h.numbers, List.length_range']

/-- There is one of `blocks` for each attempt. -/
theorem Uncut.length_blocks (h : Uncut t roster 1 left [] full blocks) : blocks.length = left := by
  rw [h.made.length_eq, h.length_steps]

/-- What belongs to single attempts, as `P` says, belongs to those with the numbers of their
places. -/
theorem Uncut.forall₂_range' {α : Type} {P : List α → Nat → Prop} {groups : List (List α)}
    (h : Uncut t roster 1 left [] full blocks)
    (hgroups : List.Forall₂ (fun group step => P group step.index) groups full.1.steps) :
    List.Forall₂ P groups (List.range' 1 groups.length) := by
  have hlength : groups.length = left := by
    rw [hgroups.length_eq, h.length_steps]
  rw [hlength, ← h.numbers, List.forall₂_map_right_iff]
  exact hgroups

/-- The entries of the first `count` attempts are their blocks. -/
theorem Uncut.upTo_eq (h : Uncut t roster 1 left [] full blocks) {count : Nat}
    (hcount : count ≤ left) : Transcript.upTo full.2 count = (blocks.take count).flatten := by
  rw [h.whole, List.nil_append, Transcript.upTo]
  refine filter_flatten_eq (h.length_blocks.symm ▸ hcount) (h.forall₂_range' ?_)
  exact h.made.imp fun _ _ ⟨_, _, hmade⟩ => hmade.id_of_mem

/-- What `pick` takes out of the first `count` attempts has their identifiers. -/
theorem Uncut.filter_filterMap {α : Type} {pick : Outcome → Option α} {idOf : α → AttemptId}
    {phaseOf : α → Phase} (hpick : Picks pick idOf phaseOf)
    (h : Uncut t roster 1 left [] full blocks) {count : Nat} (hcount : count ≤ left) :
    (full.1.steps.filterMap fun step => pick step.outcome).filter (idOf · ∈ idsFrom 1 count)
      = (full.1.steps.take count).filterMap fun step => pick step.outcome := by
  have hflatten : ∀ steps : List Step, (steps.filterMap fun step => pick step.outcome)
      = (steps.map fun step => (pick step.outcome).toList).flatten := by
    intro steps
    rw [List.filterMap_eq_flatMap_toList, List.flatMap]
  rw [hflatten, hflatten, List.map_take]
  refine filter_flatten_eq (by rw [List.length_map, h.length_steps]; exact hcount)
    (h.forall₂_range' ?_)
  rw [List.forall₂_map_left_iff, List.forall₂_same]
  intro step hstep a ha
  obtain ⟨block, -, _, _, hmade⟩ := exists_of_forall₂ h.made.flip hstep
  rw [hpick.id (Option.mem_toList.mp ha), hmade.id_phase.1]

/-! ### Where a run is cut -/

variable {raised : Transcript → Bool} {count : Nat}

/-- A run that is `cut` is a restriction of the `full` one. -/
theorem CutBehind.restrictsTo (huncut : Uncut t roster 1 left [] full blocks)
    (h : CutBehind raised left [] full cut blocks count) :
    Run.RestrictsTo ⟨full.1.steps, full.1.cancelled⟩ ⟨cut.1.steps, cut.1.cancelled⟩ full.2 cut.2
      count where
  processed := by
    rw [Run.processed, h.steps, List.length_take, huncut.length_steps, Nat.min_eq_left h.count_le]
  steps := h.steps
  records := by
    rw [Run.ledger, h.steps, Run.ledger, huncut.filter_filterMap picks_record? h.count_le]
  skips := by
    rw [Run.ledger, h.steps, Run.ledger, huncut.filter_filterMap picks_skip? h.count_le]
  transcript := by rw [h.transcript, List.nil_append, huncut.upTo_eq h.count_le]

omit [WordSource G] in
/-- If the wish to stop was `raised` from the start, no attempt is made. -/
theorem CutBehind.count_eq_zero (h : CutBehind raised left [] full cut blocks count)
    (hraised : raised [] = true) : count = 0 := by
  by_contra hcount
  have hunraised : raised [] = false := h.unraised 0 (Nat.pos_of_ne_zero hcount)
  exact absurd (hunraised.symm.trans hraised) nofun

/-- If the wish to stop is `raised` in the course of the attempt `last`, this attempt is the last
one. -/
theorem CutBehind.count_eq (huncut : Uncut t roster 1 left [] full blocks)
    (h : CutBehind raised left [] full cut blocks count)
    (hstays : ∀ t u, raised t = true → raised (t ++ u) = true) {last : Nat} (hpos : 1 ≤ last)
    (hle : last ≤ left) (hbefore : raised (Transcript.upTo full.2 (last - 1)) = false)
    (hafter : raised (Transcript.upTo full.2 last) = true) : count = last := by
  rw [huncut.upTo_eq (by omega)] at hbefore
  rw [huncut.upTo_eq hle] at hafter
  rcases Nat.lt_trichotomy count last with hlt | heq | hgt
  · -- at the head of the attempt behind the cut it would have been there already
    have hraised := h.raised (Nat.lt_of_lt_of_le hlt hle)
    have hmore : blocks.take (last - 1)
        = blocks.take count ++ (blocks.drop count).take (last - 1 - count) := by
      rw [← List.take_add, Nat.add_sub_cancel' (by omega)]
    rw [hmore, List.flatten_append] at hbefore
    exact absurd ((hstays _ _ hraised).symm.trans hbefore) nofun
  · exact heq
  · exact absurd ((h.unraised last hgt).symm.trans hafter) nofun

/-- If the wish to stop is never `raised`, all attempts are made. -/
theorem CutBehind.count_eq_left (huncut : Uncut t roster 1 left [] full blocks)
    (h : CutBehind raised left [] full cut blocks count)
    (hstays : ∀ t u, raised t = true → raised (t ++ u) = true) (hnever : raised full.2 = false) :
    count = left := by
  by_contra hcount
  have hraised := h.raised (Nat.lt_of_le_of_ne h.count_le hcount)
  rw [huncut.whole, List.nil_append, ← List.take_append_drop count blocks, List.flatten_append]
    at hnever
  exact absurd ((hstays _ _ hraised).symm.trans hnever) nofun

end Uncut

end Trial

/-! ### Runs of sessions -/

namespace Session

/-- The first run of a `session` comes to what its attempts come to, from the moment on at which the
`roster` has been found. -/
private theorem exists_attempts_of_runUntil {σ : Type} {session : Session}
    (hidle : session.state = .idle) (services : Services (StateM σ))
    {directory : Directory (StateM σ)} (entropy : Keystream) {s : σ} {roster : Roster}
    (hresolve : (directory.resolve s).1.1 = .ok roster) (raised : Transcript → Bool) :
    let trial := session.trial
    let s' := (services.rest trial.initialDelay (directory.resolve s).2).2
    let made := (trial.attempts (services.flagged raised) roster trial.schedule.total 1
      (trial.source entropy) [] s').1
    (session.runUntil services directory entropy s raised).1.result
        = .ok ⟨made.1.steps, made.1.cancelled⟩ ∧
      (session.runUntil services directory entropy s raised).2 = made.2 := by
  have hrest : ∀ duration, (services.flagged raised).rest duration
      = services.transcribed.rest duration := fun _ => rfl
  unfold runUntil Session.run Trial.run
  rw [hidle, Directory.resolve_lift]
  simp only [bind_apply, lift_apply]
  rw [hresolve]
  simp only [bind_apply, pure_apply, hrest, transcribed_rest]
  exact ⟨rfl, rfl⟩

end Session

/-- **Cancellation.** Take two runs of a session with a seed over the same directory and the same
services, whose answers may depend on all calls before, and let the wish to stop come up in the
second one only, at any moment, and stay. Then the second run is the first one restricted to its
first so many attempts (`Trial.Run.RestrictsTo`). These are none if the wish was there from the
start, and those up to and including the attempt in the course of which it came up. -/
theorem Session.restrictsTo_of_raised {settings : Settings} {session : Session} {seed : Nat}
    (hsession : Session.ofSettings? settings = .ok session) (hseed : settings.seed = some seed)
    {σ : Type} (services : Services (StateM σ)) {directory : Directory (StateM σ)}
    (entropy entropy' : Keystream) {s : σ} {roster : Roster}
    (hresolve : (directory.resolve s).1.1 = .ok roster) {raised : Transcript → Bool}
    (hstays : ∀ t u, raised t = true → raised (t ++ u) = true) :
    let whole := session.runUntil services directory entropy s neverRaised
    let short := session.runUntil services directory entropy' s raised
    ∃ (full cut : Trial.Run) (count : Nat),
      whole.1.result = .ok full ∧ short.1.result = .ok cut ∧
      full.cancelled = false ∧ (full.processed : Int) = settings.total ∧
      full.RestrictsTo cut whole.2 short.2 count ∧
      (cut.cancelled = true ↔ count < full.processed) ∧
      (raised [] = true → count = 0) ∧
      (∀ last, 1 ≤ last → last ≤ full.processed → raised (whole.2.upTo (last - 1)) = false →
        raised (whole.2.upTo last) = true → count = last) ∧
      (raised whole.2 = false → count = full.processed) := by
  obtain ⟨htrial, hidle⟩ := Session.ofSettings?_eq_ok hsession
  have hfollows := Trial.follows_of_ofSettings? htrial
  obtain ⟨hwhole, hcalls⟩ :=
    exists_attempts_of_runUntil hidle services entropy hresolve neverRaised
  obtain ⟨hshort, hcalls'⟩ := exists_attempts_of_runUntil hidle services entropy' hresolve raised
  -- with a seed both runs start from the same words
  rw [hfollows.source_eq hseed] at hwhole hcalls hshort hcalls'
  obtain ⟨blocks, count, huncut, hcut⟩ := Trial.exists_cut session.trial services roster raised
    session.trial.schedule.total 1 (Nat.le_refl 1) (Nat.add_comm 1 _) (Keystream.ofSeed seed) []
    (services.rest session.trial.initialDelay (directory.resolve s).2).2
  intro whole short
  rw [show whole.2 = _ from hcalls, show short.2 = _ from hcalls']
  have hprocessed := huncut.length_steps
  refine ⟨_, _, count, hwhole, hshort, huncut.uncancelled, ?_, hcut.restrictsTo huncut, ?_,
    hcut.count_eq_zero, fun last hpos hle => ?_, fun hnever => ?_⟩
  · rw [Trial.Run.processed, hprocessed, hfollows.schedule]
    exact Int.toNat_of_nonneg (Int.le_of_lt hfollows.total_pos)
  · rw [Trial.Run.processed, hprocessed]
    exact hcut.cancelled
  · rw [Trial.Run.processed, hprocessed] at hle
    exact hcut.count_eq huncut hstays hpos hle
  · rw [Trial.Run.processed, hprocessed]
    exact hcut.count_eq_left huncut hstays hnever

/-- The wish to stop comes up in the call with this `number`, the calls counted from one on. -/
def raisedInCall (number : Nat) : Transcript → Bool := fun t => decide (number ≤ t.length)

/-- A run that is stopped while its second payment is made goes on to the end of that attempt. -/
theorem Session.restrictsTo_of_raised_charging :
    ∃ (session : Session) (full cut : Trial.Run), Session.ofSettings? .four = .ok session ∧
      (session.runUntil (.charging 0 "b") .two (.ofSeed 0) 0 neverRaised).1.result = .ok full ∧
      (session.runUntil (.charging 0 "b") .two (.ofSeed 1) 0 (raisedInCall 5)).1.result = .ok cut ∧
      full.RestrictsTo cut (session.runUntil (.charging 0 "b") .two (.ofSeed 0) 0 neverRaised).2
        (session.runUntil (.charging 0 "b") .two (.ofSeed 1) 0 (raisedInCall 5)).2 2 := by
  obtain ⟨session, hsession⟩ : ∃ session, Session.ofSettings? .four = .ok session := ⟨_, rfl⟩
  have hresolve : (Directory.two.resolve 0).1.1 = .ok (.ofList [("a", "1"), ("b", "2")]) := rfl
  have hstays : ∀ t u, raisedInCall 5 t = true → raisedInCall 5 (t ++ u) = true := by
    intro t u h
    rw [raisedInCall, decide_eq_true_iff] at h ⊢
    rw [List.length_append]
    omega
  obtain ⟨full, cut, count, hfull, hcut, -, htotal, hrestricts, -, -, hlast, -⟩ :=
    Session.restrictsTo_of_raised hsession rfl (.charging 0 "b") (.ofSeed 0) (.ofSeed 1) hresolve
      hstays
  have hmoment : (Session.ofSettings? .four).toOption.map (fun session =>
      let calls := (session.runUntil (.charging 0 "b") .two (.ofSeed 0) 0 neverRaised).2
      (raisedInCall 5 (calls.upTo 1), raisedInCall 5 (calls.upTo 2))) = some (false, true) := by
    decide +kernel
  rw [hsession] at hmoment
  obtain ⟨hbefore, hafter⟩ := Prod.mk.inj (Option.some.inj hmoment)
  have htwo : 2 ≤ full.processed := by
    have htotal : (full.processed : Int) = 4 := htotal
    omega
  obtain rfl := hlast 2 (by decide) htwo hbefore hafter
  exact ⟨session, full, cut, hsession, hfull, hcut, hrestricts⟩

end RouterTrial
