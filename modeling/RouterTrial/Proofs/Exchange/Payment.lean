import RouterTrial.Exchange.PaymentService
import RouterTrial.Proofs.Exchange.Decision
import RouterTrial.Proofs.Exchange.Log
import RouterTrial.Proofs.Json.Fields
import RouterTrial.Proofs.Json.Text
import RouterTrial.Proofs.Status

/-!
# What a payment comes to

A payment always has an answer. `PaymentAnswer.Conveys` tells when a tree is read as an answer,
`Reply.Conveys` when the body of a reply is, and `PaymentService.Yields` lists what an exchange
comes to: the answer of the body, a failure made up from a status that is no success, or the answer
of the stand-in where there is nothing that can be read.

Every exchange comes to exactly one answer (`PaymentService.yields_iff`), and what it comes to is a
success only if the body or the card says so. A body need not be an object, though: an array of the
fields in order is taken for an answer too (`PaymentService.execute_eq_standIn_iff`).
-/

namespace RouterTrial

open Json (Raw)

/-! ### Trees of answers -/

namespace PaymentAnswer

variable {v : Raw} {a : PaymentAnswer}

/-- The tree `v` is a record of the answer `a`. It has a status and may have the other fields; the
answer is never the stand-in's. -/
structure Conveys (v : Raw) (a : PaymentAnswer) : Prop where
  isRecord : v.IsRecord fieldNames
  paymentId : Raw.MayHold (v.field? fieldNames "payment_id") a.paymentId
  status : v.field? fieldNames "status" = some (.string (some a.status))
  connector : Raw.MayHold (v.field? fieldNames "connector") a.connector
  errorCode : Raw.MayHold (v.field? fieldNames "error_code") a.errorCode
  errorMessage : Raw.MayHold (v.field? fieldNames "error_message") a.errorMessage
  simulated : a.simulated = false

/-- The answer that is read is the one that the tree `Conveys`. -/
theorem ofRaw?_eq_some_iff : ofRaw? v = some a ↔ Conveys v a := by
  simp only [ofRaw?, Option.bind_eq_bind, Option.bind_eq_some_iff, Option.pure_def,
    Option.some.injEq, Json.required_string_eq_some_iff, Json.optional_string_eq_some_iff]
  constructor
  · rintro ⟨fields, hfields, paymentId, hpaymentId, status, hstatus, connector, hconnector,
      errorCode, herrorCode, errorMessage, herrorMessage, rfl⟩
    have hfield : ∀ name ∈ fieldNames, fields.lookup name = v.field? fieldNames name :=
      fun name => Raw.lookup_of_fields? hfields
    rw [hfield _ (by decide)] at hpaymentId hstatus hconnector herrorCode herrorMessage
    exact ⟨Raw.exists_fields?_iff.mp ⟨fields, hfields⟩, hpaymentId, hstatus, hconnector, herrorCode,
      herrorMessage, rfl⟩
  · intro h
    obtain ⟨fields, hfields⟩ := Raw.exists_fields?_iff.mpr h.isRecord
    have hfield : ∀ name ∈ fieldNames, fields.lookup name = v.field? fieldNames name :=
      fun name => Raw.lookup_of_fields? hfields
    refine ⟨fields, hfields, a.paymentId, ?_, a.status, ?_, a.connector, ?_, a.errorCode, ?_,
      a.errorMessage, ?_, ?_⟩
    · rw [hfield _ (by decide)]
      exact h.paymentId
    · rw [hfield _ (by decide)]
      exact h.status
    · rw [hfield _ (by decide)]
      exact h.connector
    · rw [hfield _ (by decide)]
      exact h.errorCode
    · rw [hfield _ (by decide)]
      exact h.errorMessage
    · rw [← h.simulated]

/-- A member with a `name` that is none of a field is passed over whatever it holds. -/
theorem conveys_insert {name : String} (hname : name ∉ fieldNames) (tree : Raw)
    (before after : List (Option String × Raw)) :
    Conveys (.object (before ++ (some name, tree) :: after)) a ↔
      Conveys (.object (before ++ after)) a := by
  have hfield : ∀ other ∈ fieldNames,
      (Raw.object (before ++ (some name, tree) :: after)).field? fieldNames other
        = (Raw.object (before ++ after)).field? fieldNames other :=
    fun other hother => Raw.field?_insert hname hother
  constructor
  · rintro ⟨hrecord, hid, hstatus, hconnector, hcode, hmessage, hsimulated⟩
    rw [hfield _ (by decide)] at hid hstatus hconnector hcode hmessage
    exact ⟨(Raw.isRecord_insert hname).mp hrecord, hid, hstatus, hconnector, hcode, hmessage,
      hsimulated⟩
  · rintro ⟨hrecord, hid, hstatus, hconnector, hcode, hmessage, hsimulated⟩
    rw [← hfield _ (by decide)] at hid hstatus hconnector hcode hmessage
    exact ⟨(Raw.isRecord_insert hname).mpr hrecord, hid, hstatus, hconnector, hcode, hmessage,
      hsimulated⟩

/-- The payment of the stand-in is a success exactly if its `card` is one. -/
theorem isSuccess_standIn (token : String) (card : Card) :
    (Status.ofText (standIn token card).status).isSuccess = true ↔ card = .success := by
  cases card with
  | success => simp [standIn, Status.ofText_succeeded, Status.isSuccess]
  | fail => simp [standIn, Status.ofText_failed, Status.isSuccess]

theorem simulated_standIn (token : String) (card : Card) :
    (standIn token card).simulated = true := by
  cases card <;> rfl

end PaymentAnswer

/-! ### Excerpts -/

/-- The text starts with the `excerpt`, and with no longer one of at most `n` characters. -/
structure Text.IsExcerpt (n : Nat) (text excerpt : String) : Prop where
  start : excerpt.toList <+: text.toList
  length_le : excerpt.length ≤ n
  longest : ∀ other : String, other.toList <+: text.toList → other.length ≤ n →
    other.length ≤ excerpt.length

theorem Text.isExcerpt_iff {n : Nat} {text excerpt : String} :
    IsExcerpt n text excerpt ↔ excerpt = clip n text := by
  simp only [← String.toList_inj, clip_toList]
  have hlength : ∀ s : String, s.length = s.toList.length := fun s => String.length_toList.symm
  constructor
  · rintro ⟨hstart, hle, hlongest⟩
    have hclip := hlongest (clip n text)
    rw [hlength, hlength, clip_toList] at hclip
    have hmin := hclip (List.take_prefix _ _) (List.length_take_le _ _)
    rw [hlength] at hle
    -- both start the text, and the clipped text is not longer than the longest excerpt
    have hprefix : excerpt.toList <+: text.toList.take n :=
      List.prefix_take_iff.mpr ⟨hstart, hle⟩
    exact hprefix.eq_of_length (Nat.le_antisymm hprefix.length_le hmin)
  · intro h
    refine ⟨?_, ?_, fun other hother hle => ?_⟩
    · rw [h]
      exact List.take_prefix _ _
    · rw [hlength, h]
      exact List.length_take_le _ _
    · rw [hlength, hlength, h]
      rw [hlength] at hle
      exact (List.prefix_take_iff.mpr ⟨hother, hle⟩).length_le

/-! ### Exchanges -/

/-- The body of the reply `r` is read as the answer `a`. -/
def Reply.Conveys (r : Reply) (a : PaymentAnswer) : Prop :=
  ∃ tree, r.tree? = some tree ∧ PaymentAnswer.Conveys tree a

theorem Reply.conveys_iff {r : Reply} {a : PaymentAnswer} :
    r.Conveys a ↔ r.tree?.bind PaymentAnswer.ofRaw? = some a := by
  rw [Option.bind_eq_some_iff]
  exact exists_congr fun tree => and_congr_right fun _ => PaymentAnswer.ofRaw?_eq_some_iff.symm

/-- A body that is well formed is read as its `text`. -/
private theorem Reply.tree?_of_exactText? {r : Reply} {text : String}
    (h : r.exactText? = some text) : r.tree? = Raw.ofText? text := by
  rw [exactText?] at h
  split at h
  · rename_i hcomplete
    obtain ⟨cs, hcs, rfl⟩ := Option.map_eq_some_iff.mp h
    -- no octet is malformed, so the parts of the body are the characters of the text
    have hparts : Text.Utf8.parts none r.body = cs.map some := by
      rw [mapM_eq_some_iff] at hcs
      rw [← List.forall₂_eq_eq_eq, List.forall₂_map_right_iff]
      exact hcs
    have hchars : (cs.map some).flatMap Json.partChars = cs := by
      rw [List.flatMap_map]
      exact List.flatMap_singleton' cs
    rw [tree?, if_pos hcomplete, Raw.ofOctets?, hparts, hchars, Raw.ofText?, String.toList_ofList]
  · cases h

namespace PaymentService

/-- What an exchange for the order `o` comes to, where a payment of the stand-in has the `token`. -/
inductive Yields (token : String) (o : PaymentOrder) : Answer → PaymentAnswer → Prop
  /-- There was no reply. -/
  | failed : Yields token o .failed (.standIn token o.card)
  /-- The reply `r` is one of success, but its body is not read as an answer. -/
  | unreadable {r : Reply} (hstatus : 200 ≤ r.status ∧ r.status < 300) (h : ∀ a, ¬r.Conveys a) :
      Yields token o (.reply r) (.standIn token o.card)
  /-- The reply `r` is one of success, and its body is read as the answer `a`. -/
  | executed {r : Reply} {a : PaymentAnswer} (hstatus : 200 ≤ r.status ∧ r.status < 300)
      (h : r.Conveys a) : Yields token o (.reply r) a
  /-- The reply `r` is none of success; its body is excerpted. -/
  | refused {r : Reply} {message : String} (hstatus : ¬(200 ≤ r.status ∧ r.status < 300))
      (hmessage : Text.IsExcerpt 200 r.text message) :
      Yields token o (.reply r)
        { paymentId := none, status := "failed", connector := some o.connector,
          errorCode := some ("HTTP_" ++ toString r.status), errorMessage := some message,
          simulated := false }

variable {token : String} {o : PaymentOrder} {r : Reply} {a : PaymentAnswer}

private theorem readAnswer_of_conveys (hstatus : 200 ≤ r.status ∧ r.status < 300)
    (h : r.Conveys a) : readAnswer token o (.reply r) = a := by
  rw [readAnswer, if_pos (Reply.isSuccess_iff.mpr hstatus), Reply.conveys_iff.mp h,
    Option.getD_some]

private theorem readAnswer_of_not_conveys (hstatus : 200 ≤ r.status ∧ r.status < 300)
    (h : ∀ a, ¬r.Conveys a) : readAnswer token o (.reply r) = .standIn token o.card := by
  have hnone : r.tree?.bind PaymentAnswer.ofRaw? = none :=
    Option.eq_none_iff_forall_not_mem.mpr fun a ha => h a (Reply.conveys_iff.mpr ha)
  rw [readAnswer, if_pos (Reply.isSuccess_iff.mpr hstatus), hnone, Option.getD_none]

private theorem readAnswer_of_not_isSuccess (hstatus : ¬(200 ≤ r.status ∧ r.status < 300)) :
    readAnswer token o (.reply r) = refusal o.connector r := by
  rw [readAnswer, if_neg (Reply.isSuccess_iff.not.mpr hstatus)]

private theorem readAnswer_of_yields {answer : Answer} (h : Yields token o answer a) :
    readAnswer token o answer = a := by
  cases h with
  | failed => rfl
  | unreadable hstatus h => exact readAnswer_of_not_conveys hstatus h
  | executed hstatus h => exact readAnswer_of_conveys hstatus h
  | refused hstatus hmessage =>
    rw [readAnswer_of_not_isSuccess hstatus, refusal, Text.isExcerpt_iff.mp hmessage]
    rfl

theorem yields_readAnswer (token : String) (o : PaymentOrder) (answer : Answer) :
    Yields token o answer (readAnswer token o answer) := by
  cases answer with
  | failed => exact .failed
  | reply r =>
    by_cases hstatus : 200 ≤ r.status ∧ r.status < 300
    · by_cases hconveys : ∃ a, r.Conveys a
      · obtain ⟨a, ha⟩ := hconveys
        rw [readAnswer_of_conveys hstatus ha]
        exact .executed hstatus ha
      · have hnone : ∀ a, ¬r.Conveys a := fun a ha => hconveys ⟨a, ha⟩
        rw [readAnswer_of_not_conveys hstatus hnone]
        exact .unreadable hstatus hnone
    · rw [readAnswer_of_not_isSuccess hstatus]
      exact .refused hstatus (Text.isExcerpt_iff.mpr rfl)

/-- An exchange comes to the answer that `readAnswer` gives, and to no other one. -/
theorem yields_iff {answer : Answer} :
    Yields token o answer a ↔ a = readAnswer token o answer := by
  constructor
  · exact fun h => (readAnswer_of_yields h).symm
  · rintro rfl
    exact yields_readAnswer token o answer

namespace Yields

variable {answer : Answer}

/-- The answer `a` is the stand-in's exactly if there was no reply, or one of success that is not
read. -/
theorem simulated_iff (h : Yields token o answer a) :
    a.simulated = true ↔
      answer = .failed ∨
        ∃ r, answer = .reply r ∧ (200 ≤ r.status ∧ r.status < 300) ∧ ∀ a, ¬r.Conveys a := by
  cases h with
  | failed => exact iff_of_true (PaymentAnswer.simulated_standIn _ _) (.inl rfl)
  | unreadable hstatus h =>
    exact iff_of_true (PaymentAnswer.simulated_standIn _ _) (.inr ⟨_, rfl, hstatus, h⟩)
  | executed hstatus h =>
    obtain ⟨tree, htree, hconveys⟩ := h
    rw [hconveys.simulated]
    refine iff_of_false Bool.false_ne_true ?_
    rintro (hfailed | ⟨_, heq, -, hnone⟩)
    · cases hfailed
    · obtain rfl := Answer.reply.inj heq
      exact hnone a ⟨tree, htree, hconveys⟩
  | refused hstatus hmessage =>
    refine iff_of_false Bool.false_ne_true ?_
    rintro (hfailed | ⟨_, heq, hsuccess, -⟩)
    · cases hfailed
    · obtain rfl := Answer.reply.inj heq
      exact hstatus hsuccess

/-- A payment of the stand-in is a success exactly if the card of the order `o` is one. -/
private theorem isSuccess_iff_of_simulated (h : Yields token o answer a)
    (hsimulated : a.simulated = true) :
    (Status.ofText a.status).isSuccess = true ↔ o.card = .success := by
  cases h with
  | failed => exact PaymentAnswer.isSuccess_standIn token o.card
  | unreadable _ _ => exact PaymentAnswer.isSuccess_standIn token o.card
  | executed _ h =>
    obtain ⟨tree, -, hconveys⟩ := h
    rw [hconveys.simulated] at hsimulated
    cases hsimulated
  | refused _ _ => cases hsimulated

/-- A payment is a failure if the status of the reply `r` is none of success, whatever the body
says. -/
theorem ofText_status_of_not_isSuccess (h : Yields token o (.reply r) a)
    (hstatus : ¬(200 ≤ r.status ∧ r.status < 300)) : Status.ofText a.status = .failure := by
  cases h with
  | unreadable hsuccess _ => exact absurd hsuccess hstatus
  | executed hsuccess _ => exact absurd hsuccess hstatus
  | refused _ _ => exact Status.ofText_failed

end Yields

variable {σ : Type}

/-- Executing the payment of `o` is reading the answer of its exchange. -/
theorem execute_apply (s : PaymentService) (network : Network (StateM σ)) (given : StateM σ String)
    (o : PaymentOrder) (state : σ) :
    let sent := network.send (s.orderRequest o) state
    (s.execute network given o state).1 = readAnswer (given sent.2).1 o sent.1 := by
  rw [execute, stateM_bind_apply, stateM_bind_apply]
  generalize network.send (s.orderRequest o) state = sent
  rfl

/-- **What a payment comes to.** Whatever the exchange of a payment is, the answer is the one of
`Yields`, and no other one is. It is the stand-in's exactly if there was no reply, or one of success
whose body is not read as an answer, and it is then a success exactly if the card is one. With a
status that is none of success it is a failure. What a body is read as does not depend on members
that are none of the fields of an answer. -/
theorem execute_yields_and_status (s : PaymentService) (network : Network (StateM σ))
    (given : StateM σ String) (o : PaymentOrder) (state : σ) :
    let sent := network.send (s.orderRequest o) state
    let token := (given sent.2).1
    let answer := (s.execute network given o state).1
    (∀ a, Yields token o sent.1 a ↔ a = answer) ∧
      (answer.simulated = true ↔ sent.1 = .failed ∨
        ∃ r, sent.1 = .reply r ∧ (200 ≤ r.status ∧ r.status < 300) ∧ ∀ a, ¬r.Conveys a) ∧
      (answer.simulated = true →
        ((Status.ofText answer.status).isSuccess = true ↔ o.card = .success)) ∧
      (∀ r, sent.1 = .reply r → ¬(200 ≤ r.status ∧ r.status < 300) →
        Status.ofText answer.status = .failure) ∧
      "simulated" ∉ PaymentAnswer.fieldNames ∧
      ∀ name ∉ PaymentAnswer.fieldNames, ∀ (tree : Raw) before after a,
        PaymentAnswer.Conveys (.object (before ++ (some name, tree) :: after)) a ↔
          PaymentAnswer.Conveys (.object (before ++ after)) a := by
  rw [execute_apply]
  generalize network.send (s.orderRequest o) state = sent
  have hyields := yields_readAnswer (given sent.2).1 o sent.1
  refine ⟨fun a => yields_iff, hyields.simulated_iff, hyields.isSuccess_iff_of_simulated, ?_,
    by decide,
    fun name hname tree before after a => PaymentAnswer.conveys_insert hname tree before after⟩
  intro r hreply hstatus
  rw [hreply] at hyields ⊢
  exact hyields.ofText_status_of_not_isSuccess hstatus

end PaymentService

/-! ### Answers that are no objects -/

/-- The body of the reply `r` is an object in which a status stands as a string. -/
def Reply.HoldsStatus (r : Reply) : Prop :=
  ∃ members text, r.tree? = some (.object members) ∧ (some "status", .string (some text)) ∈ members

/-- The tree `v` is a string with a text, or null. -/
def Json.Raw.IsTextOrNull (v : Raw) : Prop := v = .null ∨ ∃ text, v = .string (some text)

/-- The `items` are the fields of an answer in order, as many of them as are there: strings and
nulls, and the second one is a string. -/
structure PaymentAnswer.IsRow (items : List Raw) : Prop where
  length_le : items.length ≤ 5
  status : ∃ text, items[1]? = some (.string (some text))
  texts : ∀ item ∈ items, item.IsTextOrNull

/-- The body of the reply `r` is an array of the fields of an answer. -/
def Reply.HoldsRow (r : Reply) : Prop :=
  ∃ items, r.tree? = some (.array items) ∧ PaymentAnswer.IsRow items

/-- A `field` that may be missing can be read if it is a string or null. -/
theorem Json.Raw.exists_mayHold_iff {field : Option Raw} :
    (∃ text, MayHold field text) ↔ ∀ item ∈ field, item.IsTextOrNull := by
  cases field with
  | none => exact ⟨fun _ => nofun, fun _ => ⟨none, .inl rfl⟩⟩
  | some v =>
    simp only [Option.mem_some_iff, forall_eq']
    constructor
    · rintro ⟨_ | text, h⟩
      · exact .inl (Option.some.inj (h.resolve_left nofun))
      · exact .inr ⟨text, Option.some.inj h⟩
    · rintro (rfl | ⟨text, rfl⟩)
      · exact ⟨none, .inr rfl⟩
      · exact ⟨some text, rfl⟩

namespace PaymentAnswer

/-- An array is read as an answer exactly if it `IsRow` of its fields. -/
private theorem exists_conveys_array_iff {items : List Raw} :
    (∃ a, Conveys (.array items) a) ↔ IsRow items := by
  constructor
  · rintro ⟨a, h⟩
    refine ⟨h.isRecord, ⟨_, h.status⟩, fun item hitem => ?_⟩
    obtain ⟨i, hi⟩ := List.mem_iff_getElem?.mp hitem
    have hlength : items.length ≤ 5 := h.isRecord
    have hbound : i < items.length := (List.getElem?_eq_some_iff.mp hi).1
    have htext : ∀ {text}, Raw.MayHold items[i]? text → item.IsTextOrNull := fun {text} hfield =>
      Raw.exists_mayHold_iff.mp ⟨text, hfield⟩ item hi
    -- an array has no more places than there are fields, and each field says what stands at its own
    match i, hbound.trans_le hlength with
    | 0, _ => exact htext h.paymentId
    | 1, _ => exact .inr ⟨_, Option.some.inj (hi.symm.trans h.status)⟩
    | 2, _ => exact htext h.connector
    | 3, _ => exact htext h.errorCode
    | 4, _ => exact htext h.errorMessage
  · rintro ⟨hlength, ⟨status, hstatus⟩, htexts⟩
    have hfield : ∀ i : Nat, ∃ text, Raw.MayHold items[i]? text := fun i =>
      Raw.exists_mayHold_iff.mpr fun item hitem => htexts item (List.mem_of_getElem? hitem)
    obtain ⟨paymentId, hpaymentId⟩ := hfield 0
    obtain ⟨connector, hconnector⟩ := hfield 2
    obtain ⟨errorCode, herrorCode⟩ := hfield 3
    obtain ⟨errorMessage, herrorMessage⟩ := hfield 4
    exact ⟨⟨paymentId, status, connector, errorCode, errorMessage, false⟩,
      ⟨hlength, hpaymentId, hstatus, hconnector, herrorCode, herrorMessage, rfl⟩⟩

/-- The status of the answer `a` is the second item of an array. -/
private theorem Conveys.status_of_array {items : List Raw} {a : PaymentAnswer}
    (h : Conveys (.array items) a) : items[1]? = some (.string (some a.status)) :=
  h.status

end PaymentAnswer

/-- What is read as an answer is an object with a status (`HoldsStatus`) or a row (`HoldsRow`). -/
theorem Reply.exists_conveys_iff {r : Reply} (hother : ¬r.HoldsStatus) :
    (∃ a, r.Conveys a) ↔ r.HoldsRow := by
  constructor
  · rintro ⟨a, tree, htree, h⟩
    cases tree with
    -- the status of an object is one of its members, which is ruled out here
    | object members =>
      exact absurd ⟨members, a.status, htree, Raw.mem_of_last? h.status⟩ hother
    | array items => exact ⟨items, htree, PaymentAnswer.exists_conveys_array_iff.mp ⟨a, h⟩⟩
    | null | bool _ | number _ | string _ => exact h.isRecord.elim
  · rintro ⟨items, htree, hrow⟩
    obtain ⟨a, ha⟩ := PaymentAnswer.exists_conveys_array_iff.mpr hrow
    exact ⟨a, _, htree, ha⟩

namespace PaymentService

variable {σ : Type}

/-- **Answers that are no objects.** Where the status is one of success, but the body is no object
in which a status stands as a string, the answer is the stand-in's, unless the body is an array of
the fields of an answer in order. Such an array is taken for an answer of the service, and its
second item for the status. -/
theorem execute_eq_standIn_iff (s : PaymentService) (network : Network (StateM σ))
    (given : StateM σ String) (o : PaymentOrder) (state : σ) {r : Reply}
    (hreply : (network.send (s.orderRequest o) state).1 = .reply r)
    (hstatus : 200 ≤ r.status ∧ r.status < 300) (hother : ¬r.HoldsStatus) :
    let token := (given (network.send (s.orderRequest o) state).2).1
    let answer := (s.execute network given o state).1
    (answer = .standIn token o.card ↔ ¬r.HoldsRow) ∧
      (answer.simulated = true ↔ ¬r.HoldsRow) ∧
      ∀ items, r.tree? = some (.array items) → r.HoldsRow →
        items[1]? = some (.string (some answer.status)) := by
  rw [execute_apply, hreply]
  generalize (given (network.send (s.orderRequest o) state).2).1 = token
  intro token answer
  rw [← Reply.exists_conveys_iff hother]
  by_cases hconveys : ∃ a, r.Conveys a
  · obtain ⟨a, tree, htree, ha⟩ := hconveys
    have hanswer : answer = a := readAnswer_of_conveys hstatus ⟨tree, htree, ha⟩
    have hread : ¬¬∃ a, r.Conveys a := not_not_intro ⟨a, tree, htree, ha⟩
    rw [hanswer]
    refine ⟨iff_of_false ?_ hread, iff_of_false ?_ hread, fun items hitems _ => ?_⟩
    · rintro rfl
      cases ha.simulated.symm.trans (PaymentAnswer.simulated_standIn token o.card)
    · rw [ha.simulated]
      exact Bool.false_ne_true
    · obtain rfl := Option.some.inj (htree.symm.trans hitems)
      exact ha.status_of_array
  · have hanswer : answer = .standIn token o.card :=
      readAnswer_of_not_conveys hstatus fun a ha => hconveys ⟨a, ha⟩
    rw [hanswer]
    exact ⟨iff_of_true rfl hconveys, iff_of_true (PaymentAnswer.simulated_standIn _ _) hconveys,
      fun _ _ h => absurd h hconveys⟩

/-- A reply of success whose body is the text `[null,"charged"]`. -/
def chargedRow : Reply := ⟨200, "[null,\"charged\"]".toList.map (UInt8.ofNat ·.toNat), true⟩

private theorem tree?_chargedRow :
    chargedRow.tree? = some (.array [.null, .string (some "charged")]) := by
  have htext : chargedRow.exactText? = some (Json.array [.null, .string "charged"]).compact := by
    decide +kernel
  rw [Reply.tree?_of_exactText? htext, Json.ofText?_compact]
  rfl

private theorem not_holdsStatus_chargedRow : ¬chargedRow.HoldsStatus := by
  rintro ⟨members, text, htree, -⟩
  rw [tree?_chargedRow] at htree
  cases htree

private theorem holdsRow_chargedRow : chargedRow.HoldsRow := by
  refine ⟨_, tree?_chargedRow, by decide, ⟨"charged", rfl⟩, ?_⟩
  simp only [List.forall_mem_cons]
  exact ⟨.inl rfl, .inr ⟨"charged", rfl⟩, nofun⟩

/-- A service at an address of its own. -/
def localService : PaymentService := ⟨"http://localhost", "key", "profile", 1000⟩

/-- A payment with a card that is declined. -/
def declinedOrder : PaymentOrder := ⟨.ofIndex 1, "stripe", "account", .fail⟩

/-- A network on which everything is answered with `chargedRow`. -/
def chargedNetwork : Network (StateM Unit) := ⟨fun _ => pure (.reply chargedRow)⟩

private theorem send_chargedNetwork :
    (chargedNetwork.send (localService.orderRequest declinedOrder) ()).1 = .reply chargedRow := by
  have hsendable : (localService.orderRequest declinedOrder).isSendable = true := by
    decide +kernel
  rw [Network.send, if_pos hsendable]
  rfl

/-- A payment with a card that is declined is taken for a charged one. -/
theorem execute_chargedRow :
    let answer := (localService.execute chargedNetwork (pure "") declinedOrder ()).1
    answer ≠ .standIn "" .fail ∧ answer.simulated = false ∧ answer.status = "charged" := by
  obtain ⟨hstandIn, hsimulated, hitems⟩ :=
    localService.execute_eq_standIn_iff chargedNetwork (pure "") declinedOrder ()
      send_chargedNetwork (by decide) not_holdsStatus_chargedRow
  have hstatus := hitems _ tree?_chargedRow holdsRow_chargedRow
  refine ⟨fun h => hstandIn.mp h holdsRow_chargedRow, ?_, ?_⟩
  · exact Bool.eq_false_iff.mpr fun h => hsimulated.mp h holdsRow_chargedRow
  · exact (Option.some.inj (Raw.string.inj (Option.some.inj hstatus))).symm

/-- It is not so that the stand-in answers whenever the body of a reply of success is no object with
a status: `chargedNetwork` has a row for its body. -/
theorem not_execute_eq_standIn :
    ¬∀ (s : PaymentService) (network : Network (StateM Unit)) (given : StateM Unit String)
        (o : PaymentOrder) (r : Reply),
      (network.send (s.orderRequest o) ()).1 = .reply r → (200 ≤ r.status ∧ r.status < 300) →
      ¬r.HoldsStatus → (s.execute network given o ()).1.simulated = true := by
  intro h
  have hsimulated := h localService chargedNetwork (pure "") declinedOrder chargedRow
    send_chargedNetwork (by decide) not_holdsStatus_chargedRow
  have hconveys : chargedRow.Conveys ⟨none, "charged", none, none, none, false⟩ :=
    Reply.conveys_iff.mpr (by decide +kernel)
  rw [execute_apply, send_chargedNetwork, readAnswer_of_conveys (by decide) hconveys] at hsimulated
  cases hsimulated

end PaymentService

end RouterTrial
