import RouterTrial.Proofs.Exchange.Decision
import RouterTrial.Proofs.Exchange.Log
import RouterTrial.Proofs.Roster

/-!
# What a directory is resolved to

A directory that has connectors of its own is resolved to those, and its source is left alone. Any
other one is resolved to those connectors that its source lists as enabled for the profile. `Offers`
says which connectors a directory so has to offer, each with its account. A directory that offers
some is resolved to the roster of them, and one that offers none is unavailable, whatever went wrong
with its source (`outcome_eq_ok_iff`, `outcome_eq_error_iff`).

A source over the network lists connectors exactly if its server replies with a status of success
and a body that can be read as a list of them (`ListingService.fetch_eq_ok_iff`).
-/

namespace RouterTrial

/-! ### Enabled connectors -/

namespace Listing

/-- The listed connector `l` is not disabled, and it is listed for the `profile`. -/
def Enabled (profile : String) (l : Listing) : Prop := l.disabled = false ∧ l.profile = some profile

instance (profile : String) : DecidablePred (Enabled profile) :=
  fun _ => inferInstanceAs (Decidable (_ ∧ _))

theorem isEnabled_iff {profile : String} {l : Listing} :
    l.isEnabled profile = true ↔ l.Enabled profile := by
  rw [isEnabled, Enabled, Bool.and_eq_true, Bool.not_eq_true', beq_iff_eq]

/-- The connectors of `listings` that are enabled for the `profile` with their accounts, in
order. -/
def enabledPairs (profile : String) (listings : List Listing) : List (String × String) :=
  (listings.filter fun l => l.Enabled profile).map fun l => (l.connector, l.account)

theorem mem_enabledPairs {profile name account : String} {listings : List Listing} :
    (name, account) ∈ enabledPairs profile listings ↔
      ∃ l ∈ listings, l.Enabled profile ∧ l.connector = name ∧ l.account = account := by
  simp only [enabledPairs, List.mem_map, List.mem_filter, decide_eq_true_eq, Prod.mk.injEq,
    and_assoc]

private theorem enabledPairs_ne_nil {profile : String} {listings : List Listing} :
    enabledPairs profile listings ≠ [] ↔ ∃ l ∈ listings, l.Enabled profile := by
  rw [enabledPairs, ne_eq, List.map_eq_nil_iff, List.filter_eq_nil_iff]
  simp only [decide_eq_true_eq, not_forall, not_not, exists_prop]

end Listing

private theorem Roster.ofListings_eq (profile : String) (listings : List Listing) :
    ofListings profile listings = ofList (Listing.enabledPairs profile listings) := by
  have hfilter : listings.filter (Listing.isEnabled profile)
      = listings.filter fun l => l.Enabled profile :=
    List.filter_congr fun l _ => by rw [Bool.eq_iff_iff, Listing.isEnabled_iff, decide_eq_true_iff]
  rw [ofListings, Listing.enabledPairs, hfilter]

namespace Directory

/-! ### What there is to offer -/

/-- The directory `d` offers these connectors with their accounts: its own ones, or, if it has none,
those that its source lists as enabled for the profile, if there are any. -/
inductive Offers {σ : Type} (d : Directory (StateM σ)) (s : σ) : List (String × String) → Prop
  | fixed (hfixed : d.fixed ≠ []) : Offers d s d.fixed
  | listed {ask : StateM σ (Except Fault (List Listing))} {listings : List Listing}
      (hfixed : d.fixed = []) (hsource : d.source = some ask)
      (hlistings : (ask s).1 = .ok listings) (henabled : ∃ l ∈ listings, l.Enabled d.profile) :
      Offers d s (Listing.enabledPairs d.profile listings)

/-- The roster of the directory `d`, or the fault of a session that finds none. -/
def outcome {σ : Type} (d : Directory (StateM σ)) (s : σ) : Except Fault Roster :=
  (d.resolve s).1.1.mapError DirectoryFault.fault

/-- Why the directory `d` is unavailable if it offers nothing. -/
def unavailability {m : Type → Type} (d : Directory m) : String :=
  match d.source with
  | none => "no static connectors configured and no lookup source"
  | some _ => "connector lookup returned no enabled connector for profile " ++ d.profile

/-! ### Resolving -/

/-- A directory with `fixed` connectors asks nobody. -/
theorem resolve_of_fixed {m : Type → Type} [Monad m] {d : Directory m} (h : d.fixed ≠ []) :
    d.resolve = pure (.ok (.ofList d.fixed), []) := by
  rw [resolve, if_neg]
  rwa [List.isEmpty_iff]

/-- What follows from the `answer` of a source, of which a fault leaves nothing. -/
private theorem conclude_fst (profile : String) (answer : Except Fault (List Listing)) :
    (conclude profile answer).1
      = if ∃ l ∈ listings answer, l.Enabled profile then
          .ok (.ofList (Listing.enabledPairs profile (listings answer)))
        else .error (.noneEnabled profile) := by
  rw [conclude, Roster.ofListings_eq]
  by_cases hsome : ∃ l ∈ listings answer, l.Enabled profile
  · have hnames := Roster.names_ofList_ne_nil (Listing.enabledPairs_ne_nil.mpr hsome)
    have hempty : (Roster.ofList (Listing.enabledPairs profile (listings answer))).isEmpty
        = false := by
      rw [Roster.isEmpty, List.isEmpty_eq_false_iff]
      exact fun hnil => hnames (by rw [Roster.names, hnil, List.map_nil])
    simp only [hempty, hsome, if_true, Bool.false_eq_true, if_false]
  · have hnil : Listing.enabledPairs profile (listings answer) = [] :=
      not_not.mp fun h => hsome (Listing.enabledPairs_ne_nil.mp h)
    rw [if_neg hsome, hnil]
    rfl

variable {σ : Type} {d : Directory (StateM σ)} {s : σ}

/-- A directory without `fixed` connectors takes what follows from the answer of its source. -/
private theorem resolve_of_ask {ask : StateM σ (Except Fault (List Listing))}
    (hfixed : d.fixed = []) (hsource : d.source = some ask) :
    (d.resolve s).1 = conclude d.profile (ask s).1 := by
  rw [resolve, hfixed, hsource]
  rfl

/-- A directory is resolved to the roster of the `pairs` that it offers. -/
private theorem outcome_of_offers {pairs : List (String × String)} (h : d.Offers s pairs) :
    d.outcome s = .ok (.ofList pairs) := by
  cases h with
  | fixed hfixed =>
    rw [outcome, resolve_of_fixed hfixed]
    rfl
  | @listed ask found hfixed hsource hfound henabled =>
    have hconclude : (conclude d.profile (.ok found)).1
        = .ok (.ofList (Listing.enabledPairs d.profile found)) := by
      rw [conclude_fst]
      exact if_pos henabled
    rw [outcome, resolve_of_ask hfixed hsource, hfound, hconclude]
    rfl

/-- A directory that offers nothing is unavailable, for the reason `unavailability` gives. -/
private theorem outcome_of_not_offers (h : ¬∃ pairs, d.Offers s pairs) :
    d.outcome s = .error (.directoryUnavailable d.unavailability) := by
  have hfixed : d.fixed = [] := not_not.mp fun hne => h ⟨_, .fixed hne⟩
  cases hsource : d.source with
  | none =>
    rw [outcome, unavailability, resolve, hfixed, hsource]
    rfl
  | some ask =>
    have hnone : ¬∃ l ∈ listings (ask s).1, l.Enabled d.profile := by
      rintro ⟨l, hl, henabled⟩
      cases hanswer : (ask s).1 with
      | error fault =>
        rw [hanswer] at hl
        cases hl
      | ok found =>
        rw [hanswer] at hl
        exact h ⟨_, .listed hfixed hsource hanswer ⟨l, hl, henabled⟩⟩
    rw [outcome, resolve_of_ask hfixed hsource, conclude_fst, if_neg hnone, unavailability, hsource]
    rfl

/-- A directory is resolved exactly to the roster of what it `Offers`. -/
theorem outcome_eq_ok_iff {roster : Roster} :
    d.outcome s = .ok roster ↔ ∃ pairs, d.Offers s pairs ∧ roster = .ofList pairs := by
  constructor
  · intro h
    by_cases hoffers : ∃ pairs, d.Offers s pairs
    · obtain ⟨pairs, hpairs⟩ := hoffers
      exact ⟨pairs, hpairs, Except.ok.inj (h.symm.trans (outcome_of_offers hpairs))⟩
    · cases h.symm.trans (outcome_of_not_offers hoffers)
  · rintro ⟨pairs, hpairs, rfl⟩
    exact outcome_of_offers hpairs

/-- The only `fault` is that the directory is unavailable, and it comes up exactly if the directory
offers nothing. -/
theorem outcome_eq_error_iff {fault : Fault} :
    d.outcome s = .error fault ↔
      (¬∃ pairs, d.Offers s pairs) ∧ fault = .directoryUnavailable d.unavailability := by
  constructor
  · intro h
    by_cases hoffers : ∃ pairs, d.Offers s pairs
    · obtain ⟨pairs, hpairs⟩ := hoffers
      cases h.symm.trans (outcome_of_offers hpairs)
    · exact ⟨hoffers, Except.error.inj (h.symm.trans (outcome_of_not_offers hoffers))⟩
  · rintro ⟨hoffers, rfl⟩
    exact outcome_of_not_offers hoffers

/-- The `account` of `name` comes from the directory itself, or from a connector that its source
lists as enabled for the profile. -/
def Backs (d : Directory (StateM σ)) (s : σ) (name account : String) : Prop :=
  (name, account) ∈ d.fixed ∨
    ∃ (ask : StateM σ (Except Fault (List Listing))) (listings : List Listing),
      d.source = some ask ∧ (ask s).1 = .ok listings ∧
      ∃ l ∈ listings, l.Enabled d.profile ∧ l.connector = name ∧ l.account = account

theorem Offers.backs {pairs : List (String × String)} (h : d.Offers s pairs) {name account : String}
    (hmem : (name, account) ∈ pairs) : d.Backs s name account := by
  cases h with
  | fixed _ => exact .inl hmem
  | listed _ hsource hlistings _ =>
    exact .inr ⟨_, _, hsource, hlistings, Listing.mem_enabledPairs.mp hmem⟩

theorem Offers.ne_nil {pairs : List (String × String)} (h : d.Offers s pairs) : pairs ≠ [] := by
  cases h with
  | fixed hfixed => exact hfixed
  | listed _ _ _ henabled => exact Listing.enabledPairs_ne_nil.mpr henabled

/-- A `roster` has different names, at least one, and an account for each of them that the directory
`Backs`. -/
theorem backs_of_outcome {roster : Roster} (h : d.outcome s = .ok roster) :
    roster.names ≠ [] ∧ roster.names.Nodup ∧
      ∀ name ∈ roster.names, ∃ account,
        roster.account? name = some account ∧ d.Backs s name account := by
  obtain ⟨pairs, hoffers, rfl⟩ := outcome_eq_ok_iff.mp h
  refine ⟨Roster.names_ofList_ne_nil hoffers.ne_nil, Roster.nodup_names_ofList pairs, ?_⟩
  intro name hname
  obtain ⟨account, haccount⟩ := Option.ne_none_iff_exists'.mp fun hnone =>
    Roster.account?_eq_none_iff.mp hnone hname
  exact ⟨account, haccount, hoffers.backs (Roster.mem_of_account?_ofList haccount)⟩

end Directory

/-! ### Sources over the network -/

namespace ListingService

/-- The server has replied with a status of success and a body that has arrived and is a list of
`listings`. -/
def Lists (answer : Answer) (listings : List Listing) : Prop :=
  ∃ r : Reply, answer = .reply r ∧ (200 ≤ r.status ∧ r.status < 300) ∧ r.complete = true ∧
    Listing.listOfText? (Text.Utf8.decodeLossy r.body) = some listings

theorem readListings_eq_ok_iff {answer : Answer} {listings : List Listing} :
    readListings answer = .ok listings ↔ Lists answer listings := by
  cases answer with
  | failed => exact ⟨nofun, fun ⟨_, h, _⟩ => nomatch h⟩
  | reply r =>
    have hlists : Lists (.reply r) listings ↔ r.isSuccess = true ∧ r.complete = true ∧
        Listing.listOfText? (Text.Utf8.decodeLossy r.body) = some listings := by
      simp only [Lists, Answer.reply.injEq, exists_eq_left', Reply.isSuccess_iff]
    rw [hlists, readListings, Reply.text?]
    cases r.isSuccess with
    | false => simp only [Bool.false_eq_true, if_false, false_and, reduceCtorEq]
    | true =>
      cases r.complete with
      | false =>
        simp only [if_true, Bool.false_eq_true, if_false, false_and, and_false, reduceCtorEq]
      | true =>
        simp only [if_true, true_and]
        cases Listing.listOfText? (Text.Utf8.decodeLossy r.body) with
        | none => simp only [reduceCtorEq]
        | some found => simp only [Except.ok.injEq, Option.some.injEq]

/-- A source over the network gives what its server `Lists`. -/
theorem fetch_eq_ok_iff {σ : Type} (service : ListingService) (n : Network (StateM σ)) (s : σ)
    {listings : List Listing} :
    (service.fetch n s).1 = .ok listings ↔ Lists (n.send service.request s).1 listings := by
  rw [fetch]
  generalize n.send service.request = asked
  exact readListings_eq_ok_iff

end ListingService

namespace Directory

/-! ### Directories as a whole -/

/-- What the directory `d` is resolved to. -/
structure Resolved {σ : Type} (d : Directory (StateM σ)) (s : σ) : Prop where
  /-- The `fixed` connectors are taken, and the source is not asked, whatever it is. -/
  fixed : d.fixed ≠ [] → ∀ {m : Type → Type} [Monad m]
    (source : Option (m (Except Fault (List Listing)))),
    (⟨d.fixed, d.profile, source⟩ : Directory m).resolve = pure (.ok (.ofList d.fixed), [])
  ok_iff : ∀ roster, d.outcome s = .ok roster ↔ ∃ pairs, d.Offers s pairs ∧ roster = .ofList pairs
  /-- A fault of the source does not come through. -/
  error_iff : ∀ fault, d.outcome s = .error fault ↔
    (¬∃ pairs, d.Offers s pairs) ∧ fault = .directoryUnavailable d.unavailability
  /-- A `roster` has different names, at least one, and an account for each of them that is one of
  the directory's own or that of an enabled connector. -/
  backed : ∀ roster, d.outcome s = .ok roster →
    roster.names ≠ [] ∧ roster.names.Nodup ∧
      ∀ name ∈ roster.names, ∃ account,
        roster.account? name = some account ∧ d.Backs s name account

/-- **Directories.** Every directory is `Resolved` to the connectors of its own or to the enabled
ones of its source, or else is unavailable; and a source over the network lists connectors exactly
if its server does. -/
theorem resolved_and_fetch {σ : Type} (d : Directory (StateM σ)) (s : σ) :
    d.Resolved s ∧
      ∀ (service : ListingService) (n : Network (StateM σ)) (s' : σ) (listings : List Listing),
        (service.fetch n s').1 = .ok listings ↔
          ListingService.Lists (n.send service.request s').1 listings := by
  refine ⟨⟨fun hfixed _ _ source => ?_, fun _ => outcome_eq_ok_iff, fun _ => outcome_eq_error_iff,
    fun _ => backs_of_outcome⟩, fun service n s' _ => service.fetch_eq_ok_iff n s'⟩
  exact resolve_of_fixed (d := ⟨d.fixed, d.profile, source⟩) hfixed

/-- A connector that is disabled or listed for another profile gives no account, and of two accounts
of an enabled one the last counts. -/
example : (conclude "p" (.ok [⟨"a", "1", some "p", false⟩, ⟨"b", "2", some "q", false⟩,
    ⟨"c", "3", some "p", false⟩, ⟨"a", "4", some "p", false⟩, ⟨"a", "5", some "p", true⟩])).1
      = .ok ⟨[("a", "4"), ("c", "3")]⟩ := by decide

end Directory

end RouterTrial
