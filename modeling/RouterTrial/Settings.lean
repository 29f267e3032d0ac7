import RouterTrial.Settings.Setting

/-!
# Settings

All that a trial can be told. `Settings.ofLookup` reads the settings and never fails: what cannot be
read is kept in a list, and `Settings.validate` reports it before it looks at the values.
-/

namespace RouterTrial

/-- The settings of a trial. -/
structure Settings where
  total : Int
  baseline : Int
  deckSize : Int
  /-- Milliseconds. -/
  initialDelay : Nat
  /-- Milliseconds. -/
  pause : Nat
  seed : Option Nat
  /-- Milliseconds. -/
  timeout : Nat
  ranking : Ranking
  elimination : Bool
  format : ReportFormat
  decisionUrl : String
  decisionMerchant : String
  paymentsUrl : String
  paymentsKey : String
  paymentsProfile : String
  paymentsMerchant : String
  connectors : List (String × String)
  rates : List (String × Int)
  lookupUrl : Option String
  summarizerUrl : Option String
  /-- The settings that could not be read, in the order of their reading. -/
  rejected : List Rejected
  deriving Repr, DecidableEq

namespace Settings

/-! ### Reading -/

/-- The settings that cannot be read in `lookup`, in the order of their reading. -/
def rejections (lookup : Lookup) : List Rejected :=
  Setting.total.rejected lookup ++ Setting.baseline.rejected lookup
    ++ Setting.deckSize.rejected lookup ++ Setting.initialDelay.rejected lookup
    ++ Setting.pause.rejected lookup ++ Setting.seed.rejected lookup
    ++ Setting.timeout.rejected lookup ++ Setting.ranking.rejected lookup
    ++ Setting.elimination.rejected lookup ++ Setting.format.rejected lookup
    ++ Setting.rates.rejected lookup

/-- The settings that `lookup` has under their names. The texts of addresses and keys are taken as
they are. -/
def ofLookup (lookup : Lookup) : Settings where
  total := Setting.total.value lookup
  baseline := Setting.baseline.value lookup
  deckSize := Setting.deckSize.value lookup
  initialDelay := Setting.initialDelay.value lookup
  pause := Setting.pause.value lookup
  seed := Setting.seed.value lookup
  timeout := Setting.timeout.value lookup
  ranking := Setting.ranking.value lookup
  elimination := Setting.elimination.value lookup
  format := Setting.format.value lookup
  decisionUrl := (lookup "DECISION_ENGINE_URL").getD "http://localhost:8080"
  decisionMerchant := (lookup "DECISION_MERCHANT_ID").getD "hyperswitchTest"
  paymentsUrl := (lookup "PAYMENTS_BASE_URL").getD "https://sandbox.hyperswitch.io"
  paymentsKey := (lookup "PAYMENTS_API_KEY").getD ""
  paymentsProfile := (lookup "PAYMENTS_PROFILE_ID").getD ""
  paymentsMerchant := (lookup "PAYMENTS_MERCHANT_ID").getD ""
  connectors := connectorPairs ((lookup "SIM_CONNECTORS").getD "")
  rates := Setting.rates.value lookup
  lookupUrl := lookup.present "CONNECTOR_LOOKUP_URL"
  summarizerUrl := lookup.present "SUMMARIZER_URL"
  rejected := rejections lookup

/-- The names under which settings are looked up. -/
def names : List String :=
  [Setting.total.name, Setting.baseline.name, Setting.deckSize.name, Setting.initialDelay.name,
    Setting.pause.name, Setting.seed.name, Setting.timeout.name, Setting.ranking.name,
    Setting.elimination.name, Setting.format.name, Setting.rates.name, "DECISION_ENGINE_URL",
    "DECISION_MERCHANT_ID", "PAYMENTS_BASE_URL", "PAYMENTS_API_KEY", "PAYMENTS_PROFILE_ID",
    "PAYMENTS_MERCHANT_ID", "SIM_CONNECTORS", "CONNECTOR_LOOKUP_URL", "SUMMARIZER_URL"]

/-- Nothing is looked up under any other name than those of `names`. -/
theorem ofLookup_congr {lookup lookup' : Lookup} (h : ∀ name ∈ names, lookup name = lookup' name) :
    ofLookup lookup = ofLookup lookup' := by
  simp only [names, List.mem_cons, List.not_mem_nil, or_false, forall_eq_or_imp, forall_eq] at h
  simp only [ofLookup, rejections, Setting.value, Setting.rejected, Lookup.present, h]

/-! ### Checking -/

/-- The number `n` is a percentage. -/
def isPercent (n : Int) : Bool := 0 ≤ n && n ≤ 100

/-- The first fault of the settings `s`, if they have one. -/
def fault? (s : Settings) : Option ConfigurationFault :=
  if !s.rejected.isEmpty then some (.unparsable s.rejected)
  else if s.total ≤ 0 then some (.totalPayments s.total)
  else if !isPercent s.baseline then some (.successPercent s.baseline)
  else if s.deckSize < 1 ∨ maxDeckSize < s.deckSize then some (.poolSize s.deckSize)
  else
    match s.rates.find? fun r => !isPercent r.2 with
    | some (connector, rate) => some (.connectorRate connector rate)
    | none => if s.timeout = 0 then some .timeout else none

/-- The settings `s` can be used, as far as each is looked at by itself. -/
def validate (s : Settings) : Except ConfigurationFault Unit :=
  match s.fault? with
  | some fault => .error fault
  | none => .ok ()

end Settings

end RouterTrial
