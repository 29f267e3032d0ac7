import RouterTrial.Payment.Json
import RouterTrial.Proofs.Json.Text
import RouterTrial.Proofs.Json.Value
import RouterTrial.Report.Ledger

/-!
# Records and their texts

What is written for a record or a skip, or for a part of one, is read back as it, in both layouts of
a text and whatever its strings hold: they may well look like JSON themselves. The same holds of the
answer for a payment, but for whether it is the stand-in's, which is not written. So the records
that a summarizer is given can be read out of what it is asked (`toJson_gives_and_exists_logs`).

The fields of a written record are all there and none of them twice (`fields?_object`), so each is
read from the tree that was written for it.
-/

namespace RouterTrial

open Json (Raw)

namespace Json

/-! ### Fields of written records -/

/-- Members with `names` of fields, none of them twice, are all fields. -/
private theorem namedFields?_rawMembers {names : List String} {members : List (String × Json)}
    (hnodup : (members.map (·.1)).Nodup) (hnames : ∀ m ∈ members, m.1 ∈ names) :
    namedFields? names (rawMembers members) = some (members.map fun m => (m.1, m.2.raw)) := by
  induction members with
  | nil => rfl
  | cons m ms ih =>
    obtain ⟨hnotMem, hnodup⟩ := List.nodup_cons.mp hnodup
    obtain ⟨hname, hnames⟩ := List.forall_mem_cons.mp hnames
    have hlookup : (ms.map fun m => (m.1, m.2.raw)).lookup m.1 = none := by
      rw [List.lookup_eq_none_iff]
      intro entry hentry
      obtain ⟨m', hm', rfl⟩ := List.mem_map.mp hentry
      have hne : m.1 ≠ m'.1 := fun h => hnotMem (List.mem_map.mpr ⟨m', hm', h.symm⟩)
      simpa using hne
    rw [rawMembers, namedFields?, ih hnodup hnames, Option.bind_some,
      if_pos (List.contains_iff_mem.mpr hname), hlookup]
    rfl

/-- An object whose names are the `names` of the fields, in order, gives each field its tree. -/
theorem fields?_object {names : List String} {members : List (String × Json)}
    (hnames : members.map (·.1) = names) (hnodup : names.Nodup) :
    (object members).raw.fields? names = some (members.map fun m => (m.1, m.2.raw)) := by
  subst hnames
  rw [raw, Raw.fields?]
  exact namedFields?_rawMembers hnodup fun m hm => List.mem_map_of_mem hm

section Lookup

variable {α : Type} {fields : Fields} {name name' : String} {v : Raw} {read : Raw → Option α}

@[simp]
theorem required_cons_self : Fields.required ((name, v) :: fields) name read = read v := by
  rw [Fields.required, List.lookup_cons_self, Option.bind_some]

@[simp]
theorem required_cons_of_ne (h : name ≠ name') :
    Fields.required ((name', v) :: fields) name read = fields.required name read := by
  rw [Fields.required, List.lookup_cons, beq_false_of_ne h, Fields.required]

/-- A field that may be missing is read from what `Json.ofOption` makes of its value. -/
@[simp]
theorem optional_cons_ofOption {s : Option String} :
    Fields.optional ((name, (Json.ofOption s).raw) :: fields) name Raw.string? = some s := by
  rw [Fields.optional, List.lookup_cons_self]
  cases s <;> rfl

@[simp]
theorem optional_cons_of_ne (h : name ≠ name') :
    Fields.optional ((name', v) :: fields) name read = fields.optional name read := by
  rw [Fields.optional, List.lookup_cons, beq_false_of_ne h, Fields.optional]

end Lookup

@[simp]
theorem string?_raw_string (s : String) : (string s).raw.string? = some s := by
  rw [raw, Raw.string?]

@[simp]
theorem choice?_raw_string (s : String) : (string s).raw.choice? = some s := by
  rw [raw, Raw.choice?]

/-- A choice without data is read from its name, as `ofName?` reads it. -/
private theorem named?_raw_string {α : Type} (ofName? : String → Option α) (s : String) :
    (string s).raw.named? ofName? = ofName? s := by
  rw [Raw.named?, choice?_raw_string, Option.bind_some]

/-- A list is read from the trees of its items, if `read` reads each of them back from `write`. -/
private theorem list?_raw_array {α : Type} {read : Raw → Option α} {write : α → Json}
    (h : ∀ a, read (write a).raw = some a) (as : List α) :
    (array (as.map write)).raw.list? read = some as := by
  rw [raw, rawItems_eq_map, Raw.list?, mapM_eq_some_iff, List.forall₂_map_left_iff,
    List.forall₂_map_left_iff]
  exact List.forall₂_same.mpr fun a _ => h a

end Json

/-! ### Names and parts -/

@[simp]
theorem AttemptId.ofRaw?_toJson (id : AttemptId) : ofRaw? id.toJson.raw = some id := by
  rw [ofRaw?, toJson, Json.string?_raw_string, Option.map_some]

@[simp]
theorem Approach.ofRaw?_toJson (a : Approach) : ofRaw? a.toJson.raw = some a := by
  rw [ofRaw?, toJson, Json.string?_raw_string, Option.map_some]

@[simp]
theorem Phase.ofRaw?_toJson (p : Phase) : ofRaw? p.toJson.raw = some p := by
  rw [ofRaw?, toJson, Json.named?_raw_string, ofName?_name]

@[simp]
theorem Card.ofRaw?_toJson (c : Card) : ofRaw? c.toJson.raw = some c := by
  rw [ofRaw?, toJson, Json.named?_raw_string, ofName?_name]

@[simp]
theorem Status.ofRaw?_toJson (s : Status) : ofRaw? s.toJson.raw = some s := by
  rw [ofRaw?, toJson, Json.named?_raw_string, ofName?_name]

@[simp]
theorem Mode.ofRaw?_toJson (m : Mode) : ofRaw? m.toJson.raw = some m := by
  rw [ofRaw?, toJson, Json.named?_raw_string, ofName?_name]

/-! ### Records, skips and answers -/

theorem Record.ofRaw?_toJson (r : Record) : ofRaw? r.toJson.raw = some r := by
  rw [ofRaw?, toJson, Json.fields?_object]
  · simp
  · rfl
  · decide

@[simp]
theorem SkipReason.ofRaw?_toJson (reason : SkipReason) :
    ofRaw? reason.toJson.raw = some reason := by
  cases reason with
  | noDecision => rfl
  | unknownConnector connector =>
    rw [toJson, Json.raw, ofRaw?, Json.namedFields?_rawMembers]
    · rfl
    · simp
    · simp [fieldNames]

theorem Skip.ofRaw?_toJson (s : Skip) : ofRaw? s.toJson.raw = some s := by
  rw [ofRaw?, toJson, Json.fields?_object]
  · simp
  · rfl
  · decide

/-- The answer that is read back is `a`, but it is not the stand-in's. -/
theorem PaymentAnswer.ofRaw?_toJson (a : PaymentAnswer) :
    ofRaw? a.toJson.raw = some { a with simulated := false } := by
  rw [ofRaw?, toJson, Json.fields?_object]
  · simp
  · rfl
  · decide

/-! ### Texts -/

/-- The value `a` is read back from what is `written`, without white space or on lines. -/
def Json.Gives {α : Type} (written : Json) (read : Raw → Option α) (a : α) : Prop :=
  (Raw.ofText? written.compact).bind read = some a ∧
    (Raw.ofText? written.pretty).bind read = some a

theorem Json.gives_of_raw {α : Type} {written : Json} {read : Raw → Option α} {a : α}
    (h : read written.raw = some a) : written.Gives read a := by
  rw [Gives, ofText?_compact, ofText?_pretty, Option.bind_some]
  exact ⟨h, h⟩

/-- **Round trip.** Identifiers, approaches, reasons, skips and records are read back from their
texts (`Json.Gives`), and so are lists of records and, apart from whether they are the stand-in's,
answers for payments. What a summarizer is asked (`prompt`) has between its head and its last line a
text that is read as the records that it is asked about. -/
theorem toJson_gives_and_exists_logs :
    (∀ id : AttemptId, id.toJson.Gives AttemptId.ofRaw? id) ∧
    (∀ a : Approach, a.toJson.Gives Approach.ofRaw? a) ∧
    (∀ reason : SkipReason, reason.toJson.Gives SkipReason.ofRaw? reason) ∧
    (∀ s : Skip, s.toJson.Gives Skip.ofRaw? s) ∧
    (∀ r : Record, r.toJson.Gives Record.ofRaw? r) ∧
    (∀ records : List Record,
      (Json.array (records.map Record.toJson)).Gives (Raw.list? Record.ofRaw?) records) ∧
    (∀ a : PaymentAnswer, a.toJson.Gives PaymentAnswer.ofRaw? { a with simulated := false }) ∧
    ∀ records : List Record, ∃ logs, prompt records = promptHead ++ logs ++ "\n" ∧
      (Raw.ofText? logs).bind (Raw.list? Record.ofRaw?) = some records := by
  have hlist : ∀ records : List Record,
      (Json.array (records.map Record.toJson)).Gives (Raw.list? Record.ofRaw?) records :=
    fun records => Json.gives_of_raw (Json.list?_raw_array Record.ofRaw?_toJson records)
  refine ⟨fun id => Json.gives_of_raw id.ofRaw?_toJson, fun a => Json.gives_of_raw a.ofRaw?_toJson,
    fun reason => Json.gives_of_raw reason.ofRaw?_toJson,
    fun s => Json.gives_of_raw s.ofRaw?_toJson, fun r => Json.gives_of_raw r.ofRaw?_toJson, hlist,
    fun a => Json.gives_of_raw a.ofRaw?_toJson,
    fun records => ⟨_, rfl, (hlist records).2⟩⟩

end RouterTrial
