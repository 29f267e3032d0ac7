import RouterTrial.Proofs.Attempt
import RouterTrial.Proofs.Json.Place
import RouterTrial.Services.Json

/-!
# What is sent to the services

A query, a feedback and an order hold what they are made of as it is, each part at one place of
their texts; whatever else they hold is the same for all of them. So nothing that they are made of
can change or add another member, and what they are made of can be told from their texts.

The amount of a payment is a double. It stands at its place too, but doubles may have the same
text, and the text of a query has a value only if that of its amount has one.
-/

namespace RouterTrial

open Json (Carries Readable SameBut plain_string readable_object sameBut_object
  sameBut_of_nil_mem)

/-! ### Names -/

theorem Ranking.tells_toJson : Json.Tells toJson :=
  Json.tells_named (Json.injective_of_ofName? ofName?_name)

theorem Status.tells_toJson : Json.Tells toJson :=
  Json.tells_named (Json.injective_of_ofName? ofName?_name)

theorem AttemptId.tells_toJson : Json.Tells toJson := fun _ _ h =>
  congrArg AttemptId.mk (Json.tells_string h)

theorem Card.number_injective : Function.Injective number := by
  intro c c' h
  cases c <;> cases c' <;> first | rfl | exact absurd h (by decide)

/-! ### Queries -/

namespace DecisionQuery

/-- The places of what a `DecisionQuery` is made of, apart from the amount. -/
def places : List (List String) :=
  [["merchantId"], ["eligibleGatewayList"], ["rankingAlgorithm"], ["eliminationEnabled"],
    ["paymentInfo", "paymentId"], ["paymentInfo", "currency"], ["paymentInfo", "customerId"],
    ["paymentInfo", "paymentType"], ["paymentInfo", "paymentMethodType"],
    ["paymentInfo", "paymentMethod"]]

/-- The place of the amount. -/
def amountPlace : List String := ["paymentInfo", "amount"]

/-- What the query `q` by a `merchant` is made of, each part at its place. -/
def held (merchant : String) (elimination : Bool) (q : DecisionQuery) :
    List (List String × Json) :=
  [(["merchantId"], .string merchant), (["eligibleGatewayList"], .array (q.eligible.map .string)),
    (["rankingAlgorithm"], q.ranking.toJson), (["eliminationEnabled"], .bool elimination),
    (["paymentInfo", "paymentId"], q.id.toJson),
    (["paymentInfo", "currency"], .string q.attributes.currency),
    (["paymentInfo", "customerId"], .string q.attributes.customer),
    (["paymentInfo", "paymentType"], .string q.attributes.paymentType),
    (["paymentInfo", "paymentMethodType"], .string q.attributes.methodType),
    (["paymentInfo", "paymentMethod"], .string q.attributes.method)]

variable {merchant merchant' : String} {elimination elimination' : Bool} {q q' : DecisionQuery}

private theorem map_fst_held : (q.held merchant elimination).map (·.1) = places := rfl

theorem carries_toJson :
    (q.toJson merchant elimination).Carries (q.held merchant elimination) := by
  refine Json.carries_of_at? ?_
  simp only [held, List.forall_mem_cons]
  exact ⟨⟨rfl, plain_string _⟩, ⟨rfl, Json.plain_strings _⟩, ⟨rfl, plain_string _⟩,
    ⟨rfl, Json.plain_bool _⟩, ⟨rfl, plain_string _⟩, ⟨rfl, plain_string _⟩, ⟨rfl, plain_string _⟩,
    ⟨rfl, plain_string _⟩, ⟨rfl, plain_string _⟩, ⟨rfl, plain_string _⟩, nofun⟩

theorem sameBut_toJson :
    (q.toJson merchant elimination).SameBut
      (amountPlace :: (q.held merchant elimination).map (·.1))
      (q'.toJson merchant' elimination') := by
  rw [map_fst_held]
  refine sameBut_object ?_
  simp only [List.forall₂_cons, List.Forall₂.nil, true_and, and_true]
  refine ⟨?_, ?_, ?_, ?_, sameBut_object ?_⟩
  any_goals exact sameBut_of_nil_mem (by decide) _ _
  simp only [List.forall₂_cons, List.Forall₂.nil, true_and, and_true]
  refine ⟨?_, ?_, ?_, ?_, ?_, ?_, ?_⟩
  all_goals exact sameBut_of_nil_mem (by decide) _ _

/-- The text of the query `q` has a value if that of its amount has one. -/
theorem exists_ofText?_toJson_iff :
    (∃ v, Json.ofText? (q.toJson merchant elimination).compact = some v) ↔
      ∃ v, Json.ofText? (Json.float q.attributes.amount).compact = some v := by
  constructor
  · rintro ⟨v, hv⟩
    obtain ⟨tree, htree, hvalue⟩ := Json.exists_raw_of_ofText? hv
    obtain rfl := Option.some.inj ((Json.ofText?_compact _).symm.trans htree)
    have hplace := Json.at?_raw (q.toJson merchant elimination) amountPlace
    obtain ⟨w, hw⟩ := (Json.Raw.at?_interpret hvalue amountPlace).2 _ hplace
    have hamount : Readable 0 (.float q.attributes.amount) :=
      ⟨(Json.depth_raw_float _).le, w, hw, trivial⟩
    obtain ⟨v, hv, -⟩ := hamount.compact (by decide)
    exact ⟨v, hv⟩
  · rintro ⟨v, hv⟩
    have hamount : Readable 0 (.float q.attributes.amount) :=
      Json.readable_of_ofText? 0 hv (Json.depth_raw_float _).le
    have heligible : Readable 1 (.array (q.eligible.map .string)) :=
      Json.readable_array fun s _ => Json.readable_string 0 s
    have hreadable : Readable 2 (q.toJson merchant elimination) := by
      refine readable_object (by simp) ?_
      simp only [List.forall_mem_cons]
      refine ⟨by simp, heligible, by simp [Ranking.toJson], by simp, ?_, nofun⟩
      exact readable_object (by simp) (by simp [AttemptId.toJson, hamount])
    obtain ⟨w, hw, -⟩ := hreadable.compact (by decide)
    exact ⟨w, hw⟩

/-- Queries `q` and `q'` with the same text are made of the same, but perhaps for the amount. -/
theorem eq_of_compact_eq
    (h : (q.toJson merchant elimination).compact = (q'.toJson merchant' elimination').compact) :
    merchant = merchant' ∧ elimination = elimination' ∧
      q = { q' with attributes := { q'.attributes with amount := q.attributes.amount } } := by
  have hraws := carries_toJson.raws_eq carries_toJson h rfl
  have hnames := Json.tells_string.array
  obtain ⟨id, eligible, ranking, amount, currency, customer, paymentType, methodType, method⟩ := q
  obtain ⟨id', eligible', ranking', amount', currency', customer', paymentType', methodType',
    method'⟩ := q'
  simp only [held, List.map_cons, List.map_nil, List.cons.injEq, Json.tells_string.eq_iff,
    hnames.eq_iff, Ranking.tells_toJson.eq_iff, AttemptId.tells_toJson.eq_iff,
    Json.tells_bool.eq_iff, and_true] at hraws
  obtain ⟨rfl, rfl, rfl, rfl, rfl, rfl, rfl, rfl, rfl, rfl⟩ := hraws
  exact ⟨rfl, rfl, rfl⟩

end DecisionQuery

/-! ### Feedback -/

namespace Feedback

/-- The places of what a `Feedback` is made of. -/
def places : List (List String) := [["merchantId"], ["gateway"], ["status"], ["paymentId"]]

/-- What the feedback `f` by a `merchant` is made of, each part at its place. -/
def held (merchant : String) (f : Feedback) : List (List String × Json) :=
  [(["merchantId"], .string merchant), (["gateway"], .string f.connector),
    (["status"], f.status.toJson), (["paymentId"], f.id.toJson)]

/-- The members of a feedback that are there and null. -/
def nulls : List (List String × Json) :=
  [(["gatewayReferenceId"], .null), (["enforceDynamicRoutingFailure"], .null)]

variable {merchant merchant' : String} {f f' : Feedback}

private theorem map_fst_held : (f.held merchant).map (·.1) = places := rfl

theorem carries_toJson : (f.toJson merchant).Carries (f.held merchant ++ nulls) := by
  refine Json.carries_of_at? ?_
  simp only [held, nulls, List.cons_append, List.nil_append, List.forall_mem_cons]
  exact ⟨⟨rfl, plain_string _⟩, ⟨rfl, plain_string _⟩, ⟨rfl, plain_string _⟩,
    ⟨rfl, plain_string _⟩, ⟨rfl, Json.plain_null⟩, ⟨rfl, Json.plain_null⟩, nofun⟩

theorem sameBut_toJson :
    (f.toJson merchant).SameBut ((f.held merchant).map (·.1)) (f'.toJson merchant') := by
  rw [map_fst_held]
  refine sameBut_object ?_
  simp only [List.forall₂_cons, List.Forall₂.nil, true_and, and_true, SameBut.refl]
  refine ⟨?_, ?_, ?_, ?_⟩
  all_goals exact sameBut_of_nil_mem (by decide) _ _

theorem readable_toJson : Readable 1 (f.toJson merchant) := by
  refine readable_object (by simp) ?_
  simp [Status.toJson, AttemptId.toJson]

/-- Feedbacks `f` and `f'` with the same text are the same. -/
theorem eq_of_compact_eq (h : (f.toJson merchant).compact = (f'.toJson merchant').compact) :
    merchant = merchant' ∧ f = f' := by
  have hraws := carries_toJson.raws_eq carries_toJson h rfl
  obtain ⟨connector, status, id⟩ := f
  obtain ⟨connector', status', id'⟩ := f'
  simp only [held, List.map_cons, List.cons_append, List.cons.injEq, Json.tells_string.eq_iff,
    Status.tells_toJson.eq_iff, AttemptId.tells_toJson.eq_iff, and_true] at hraws
  obtain ⟨rfl, rfl, rfl, rfl⟩ := hraws
  exact ⟨rfl, rfl⟩

end Feedback

/-! ### Orders -/

namespace PaymentOrder

/-- The places of what a `PaymentOrder` is made of. -/
def places : List (List String) :=
  [["routing", "data", "connector"], ["routing", "data", "merchant_connector_id"], ["profile_id"],
    ["payment_method_data", "card", "card_number"]]

/-- What the order `o` under a `profile` is made of, each part at its place. -/
def held (profile : String) (o : PaymentOrder) : List (List String × Json) :=
  [(["routing", "data", "connector"], .string o.connector),
    (["routing", "data", "merchant_connector_id"], .string o.account),
    (["profile_id"], .string profile),
    (["payment_method_data", "card", "card_number"], .string o.card.number)]

variable {profile profile' : String} {o o' : PaymentOrder}

private theorem map_fst_held : (o.held profile).map (·.1) = places := rfl

theorem carries_toJson : (o.toJson profile).Carries (o.held profile) := by
  refine Json.carries_of_at? ?_
  simp only [held, List.forall_mem_cons]
  exact ⟨⟨rfl, plain_string _⟩, ⟨rfl, plain_string _⟩, ⟨rfl, plain_string _⟩,
    ⟨rfl, plain_string _⟩, nofun⟩

theorem sameBut_toJson :
    (o.toJson profile).SameBut ((o.held profile).map (·.1)) (o'.toJson profile') := by
  rw [map_fst_held]
  refine sameBut_object ?_
  simp only [List.forall₂_cons, List.Forall₂.nil, true_and, and_true, SameBut.refl]
  refine ⟨sameBut_object ?_, sameBut_of_nil_mem (by decide) _ _, sameBut_object ?_⟩
  · simp only [List.forall₂_cons, List.Forall₂.nil, true_and, and_true, SameBut.refl]
    refine sameBut_object ?_
    simp only [List.forall₂_cons, List.Forall₂.nil, true_and, and_true]
    exact ⟨sameBut_of_nil_mem (by decide) _ _, sameBut_of_nil_mem (by decide) _ _⟩
  · simp only [List.forall₂_cons, List.Forall₂.nil, true_and, and_true]
    refine sameBut_object ?_
    simp only [List.forall₂_cons, List.Forall₂.nil, true_and, and_true, SameBut.refl]
    exact sameBut_of_nil_mem (by decide) _ _

theorem readable_routing : Readable 2 o.routing := by
  have hdata : Readable 1 (.object [("connector", .string o.connector),
      ("merchant_connector_id", .string o.account)]) := readable_object (by simp) (by simp)
  exact readable_object (by simp) (by simp [hdata])

private theorem readable_cardDetails (card : Card) : Readable 2 (cardDetails card) := by
  refine readable_object (by simp) ?_
  rw [List.forall_mem_singleton]
  exact readable_object (by simp) (by simp)

private theorem readable_billing : Readable 2 billing := by
  refine readable_object (by simp) ?_
  simp only [List.forall_mem_cons]
  refine ⟨readable_object (by simp) (by simp), readable_object (by simp) (by simp), by simp, nofun⟩

private theorem readable_browser : Readable 2 browser :=
  readable_object (by simp) (by simp (disch := decide))

theorem readable_toJson : Readable 3 (o.toJson profile) := by
  refine readable_object (by simp) ?_
  simp (disch := decide) only [List.forall_mem_cons, Json.readable_int, Json.readable_string,
    Json.readable_bool, true_and]
  exact ⟨readable_routing, readable_cardDetails _, readable_billing, readable_browser,
    readable_object (by simp) (by simp), List.forall_mem_nil _⟩

/-- Orders `o` and `o'` with the same text are for the same payment. -/
theorem eq_of_compact_eq (h : (o.toJson profile).compact = (o'.toJson profile').compact) :
    profile = profile' ∧ o = { o' with id := o.id } := by
  have hraws := carries_toJson.raws_eq carries_toJson h rfl
  obtain ⟨id, connector, account, card⟩ := o
  obtain ⟨id', connector', account', card'⟩ := o'
  simp only [held, List.map_cons, List.map_nil, List.cons.injEq, Json.tells_string.eq_iff,
    Card.number_injective.eq_iff, and_true] at hraws
  obtain ⟨rfl, rfl, rfl, rfl⟩ := hraws
  exact ⟨rfl, rfl⟩

end PaymentOrder

/-! ### All that is sent -/

/-- **Nothing can be slipped in.** The text of a query, a feedback or an order is that of an object
that `Carries` each part at its place as it is, in a feedback with two members that are null, and
two of a kind differ at these places at most (`SameBut`). So those with the same text are made of
the same parts, apart from the amount in a query; and the identifiers of different attempts are
different parts. -/
theorem carries_and_sameBut_toJson :
    (∀ merchant elimination (q : DecisionQuery),
      (q.toJson merchant elimination).Carries (q.held merchant elimination) ∧
      ((∃ v, Json.ofText? (q.toJson merchant elimination).compact = some v) ↔
        ∃ v, Json.ofText? (Json.float q.attributes.amount).compact = some v) ∧
      ∀ merchant' elimination' (q' : DecisionQuery),
        (q.toJson merchant elimination).SameBut
          (DecisionQuery.amountPlace :: (q.held merchant elimination).map (·.1))
          (q'.toJson merchant' elimination') ∧
        ((q.toJson merchant elimination).compact = (q'.toJson merchant' elimination').compact →
          merchant = merchant' ∧ elimination = elimination' ∧
            q = { q' with attributes := { q'.attributes with amount := q.attributes.amount } })) ∧
    (∀ merchant (f : Feedback),
      (f.toJson merchant).Carries (f.held merchant ++ Feedback.nulls) ∧
      (∃ v, Json.ofText? (f.toJson merchant).compact = some v) ∧
      ∀ merchant' (f' : Feedback),
        (f.toJson merchant).SameBut ((f.held merchant).map (·.1)) (f'.toJson merchant') ∧
        ((f.toJson merchant).compact = (f'.toJson merchant').compact →
          merchant = merchant' ∧ f = f')) ∧
    (∀ profile (o : PaymentOrder),
      (o.toJson profile).Carries (o.held profile) ∧
      (∃ v, Json.ofText? (o.toJson profile).compact = some v) ∧
      ∀ profile' (o' : PaymentOrder),
        (o.toJson profile).SameBut ((o.held profile).map (·.1)) (o'.toJson profile') ∧
        ((o.toJson profile).compact = (o'.toJson profile').compact →
          profile = profile' ∧ o = { o' with id := o.id })) ∧
    Function.Injective AttemptId.ofIndex := by
  refine ⟨fun merchant elimination q => ⟨DecisionQuery.carries_toJson,
      DecisionQuery.exists_ofText?_toJson_iff, fun _ _ _ => ⟨DecisionQuery.sameBut_toJson,
        DecisionQuery.eq_of_compact_eq⟩⟩,
    fun merchant f => ⟨Feedback.carries_toJson, ?_, fun _ _ => ⟨Feedback.sameBut_toJson,
      Feedback.eq_of_compact_eq⟩⟩,
    fun profile o => ⟨PaymentOrder.carries_toJson, ?_, fun _ _ => ⟨PaymentOrder.sameBut_toJson,
      PaymentOrder.eq_of_compact_eq⟩⟩,
    AttemptId.ofIndex_injective⟩
  · have hreadable : Readable 1 (f.toJson merchant) := Feedback.readable_toJson
    obtain ⟨v, hv, -⟩ := hreadable.compact (by decide)
    exact ⟨v, hv⟩
  · have hreadable : Readable 3 (o.toJson profile) := PaymentOrder.readable_toJson
    obtain ⟨v, hv, -⟩ := hreadable.compact (by decide)
    exact ⟨v, hv⟩

theorem carries_and_sameBut_toJson_standard :
    (∃ v, Json.ofText? (DecisionQuery.toJson "m" true
      ⟨.ofIndex 1, ["a", "say \"b\""], .successRate, .standard⟩).compact = some v) ∧
    (Feedback.toJson "m" ⟨"a", .charged, .ofIndex 7⟩).compact
      ≠ (Feedback.toJson "m" ⟨"a", .charged, .ofIndex 70⟩).compact := by
  obtain ⟨hquery, hfeedback, -, hindex⟩ := carries_and_sameBut_toJson
  have hamount : Json.ofText? (Json.float Attributes.standard.amount).compact
      = some (.float 100.5) := by rfl
  refine ⟨(hquery _ _ _).2.1.mpr ⟨_, hamount⟩, fun h => ?_⟩
  obtain ⟨-, hsame⟩ := ((hfeedback _ _).2.2 _ _).2 h
  exact absurd (hindex (congrArg Feedback.id hsame)) (by decide)

end RouterTrial
