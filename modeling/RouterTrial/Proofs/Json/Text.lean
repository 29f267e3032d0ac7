import RouterTrial.Proofs.Json.Numeral

/-!
# Texts of JSON values

A text that is written for a value is read back as the tree of that value (`Json.raw`), in every
layout that adds nothing but white space (`Layout.Blank`) and whatever the strings hold
(`ofText?_compact`, `ofText?_pretty`). Both layouts of the printer are of that kind.

The leaves come first. A character of a string is read back as one piece, and the pieces as the
characters (`readString_escape`); numerals are those of `Numeral.text`. The readers of values take a
step for a value and one for each item or member; twice the length of the text is enough of them.
-/

namespace RouterTrial.Json

/-! ### White space -/

private theorem skipSpace_append {space : List Char} (h : ∀ c ∈ space, isSpace c = true)
    (cs : List Char) : skipSpace (space ++ cs) = skipSpace cs := by
  rw [skipSpace, List.dropWhile_append_of_pos h, skipSpace]

private theorem skipSpace_cons {c : Char} (h : isSpace c = false) (cs : List Char) :
    skipSpace (c :: cs) = c :: cs := by
  rw [skipSpace, List.dropWhile_cons_of_neg (by simp [h])]

/-! ### Strings -/

/-- The piece that the character `c` is read back as. -/
def pieceOf (c : Char) : Piece :=
  if c.toNat < 0x20 ∧ c ∉ ['\x08', '\x0c', '\n', '\r', '\t'] then .unit c.toNat else .char c

/-- A numbered escape of a control character has its number, as `hexUnit?` reads it. -/
private theorem hexUnit?_digitChar : ∀ n < 0x20,
    hexUnit? '0' '0' (Nat.digitChar (n / 16)) (Nat.digitChar (n % 16)) = some n := by
  decide

private theorem readPieces_escapeChar (c : Char) (cs : List Char) :
    readPieces (escapeChar c ++ cs)
      = (readPieces cs).map fun r => (pieceOf c :: r.1, r.2) := by
  unfold escapeChar
  split
  -- an escape that a character has to itself is read back by computing
  case h_8 hquote hslash hback hfeed hnew hret htab =>
    by_cases hcontrol : c.toNat < 0x20
    · have hpiece : pieceOf c = .unit c.toNat := by
        simp_all [pieceOf]
      rw [if_pos hcontrol, hpiece]
      simp [readPieces, hexUnit?_digitChar c.toNat hcontrol]
    · have hpiece : pieceOf c = .char c := by
        simp [pieceOf, hcontrol]
      have hslash' : c ≠ '\\' := hslash
      rw [if_neg hcontrol, hpiece, List.singleton_append, readPieces]
      · simp [hcontrol, hslash']
      · exact hquote
      all_goals exact fun _ _ => by simp [hslash']
  all_goals rfl

/-- A numbered escape `n` that is no half of a surrogate pair stands for a character of its own. -/
private theorem joinPieces_unit {n : Nat} (hhigh : isHighHalf n = false)
    (hlow : isLowHalf n = false) (ps : List Piece) :
    joinPieces (.unit n :: ps) = (joinPieces ps).map (Char.ofNat n :: ·) := by
  rcases ps with _ | ⟨_ | _, ps⟩ <;> simp [joinPieces, hhigh, hlow]

private theorem joinPieces_map_pieceOf (cs : List Char) :
    joinPieces (cs.map pieceOf) = some cs := by
  induction cs with
  | nil => rfl
  | cons c cs ih =>
    rw [List.map_cons, pieceOf]
    split
    · rename_i hcontrol
      have hhigh : isHighHalf c.toNat = false := by
        simp only [isHighHalf, Bool.and_eq_false_iff, decide_eq_false_iff_not]
        omega
      have hlow : isLowHalf c.toNat = false := by
        simp only [isLowHalf, Bool.and_eq_false_iff, decide_eq_false_iff_not]
        omega
      rw [joinPieces_unit hhigh hlow, ih, Option.map_some, Char.ofNat_toNat]
    · rw [joinPieces, ih, Option.map_some]

/-- The string `s` is read back from its escaped characters. -/
private theorem readString_escape (s : String) (rest : List Char) :
    readString (s.toList.flatMap escapeChar ++ '"' :: rest) = some (some s, rest) := by
  have hpieces : ∀ cs : List Char, readPieces (cs.flatMap escapeChar ++ '"' :: rest)
      = some (cs.map pieceOf, rest) := by
    intro cs
    induction cs with
    | nil => rfl
    | cons c cs ih =>
      rw [List.flatMap_cons, List.append_assoc, readPieces_escapeChar, ih]
      rfl
  rw [readString, hpieces, Option.map_some, joinPieces_map_pieceOf, Option.map_some,
    String.ofList_toList]

/-! ### Trees of values -/

mutual

/-- The tree of the text that is written for a value. -/
def raw : Json → Raw
  | null => .null
  | bool b => .bool b
  | int n => .number (.ofInt n)
  | float x => if x.isFinite then .number (.ofFloat x) else .null
  | string s => .string (some s)
  | array items => .array (rawItems items)
  | object members => .object (rawMembers members)

/-- The trees of the items of an array. -/
def rawItems : List Json → List Raw
  | [] => []
  | v :: vs => raw v :: rawItems vs

/-- The trees of the members of an object. -/
def rawMembers : List (String × Json) → List (Option String × Raw)
  | [] => []
  | (name, v) :: ms => (some name, raw v) :: rawMembers ms

end

theorem rawItems_eq_map (items : List Json) : rawItems items = items.map raw := by
  induction items with
  | nil => rfl
  | cons v vs ih => rw [rawItems, ih, List.map_cons]

theorem rawMembers_eq_map (members : List (String × Json)) :
    rawMembers members = members.map fun m => (some m.1, raw m.2) := by
  induction members with
  | nil => rfl
  | cons m ms ih => rw [rawMembers, ih, List.map_cons]

/-! ### Layouts -/

/-- The layout `l` adds nothing but white space. -/
structure Layout.Blank (l : Layout) : Prop where
  line : ∀ depth, ∀ c ∈ l.line depth, isSpace c = true
  colon : ∃ space, l.colon = ':' :: space ∧ ∀ c ∈ space, isSpace c = true

private theorem Layout.blank_compact : compact.Blank where
  line _ := nofun
  colon := ⟨[], rfl, nofun⟩

private theorem Layout.blank_pretty : pretty.Blank where
  line depth := by
    intro c hc
    rcases List.mem_cons.mp hc with rfl | hc
    · rfl
    · rw [List.eq_of_mem_replicate hc]
      rfl
  colon := ⟨[' '], rfl, by simp [isSpace]⟩

/-! ### Heads -/

/-- The text of a value can start with `c`: it is no white space, and not the end of an empty
array. -/
def StartsValue (c : Char) : Prop := isSpace c = false ∧ c ≠ ']'

instance (c : Char) : Decidable (StartsValue c) := inferInstanceAs (Decidable (_ ∧ _))

private theorem startsValue_of_isDigit {c : Char} (h : c.isDigit = true) : StartsValue c := by
  refine ⟨?_, ?_⟩
  · by_contra hspace
    have hcase : c = ' ' ∨ c = '\t' ∨ c = '\n' ∨ c = '\r' := by
      simpa only [isSpace, Bool.not_eq_false, Bool.or_eq_true, beq_iff_eq, or_assoc] using hspace
    rcases hcase with rfl | rfl | rfl | rfl <;> exact absurd h (by decide)
  · rintro rfl
    exact absurd h (by decide)

/-- The numeral `n` starts with its sign or a digit. -/
private theorem Numeral.exists_head_text {n : Numeral} (h : n.Proper) :
    ∃ c cs, n.text = c :: cs ∧ (c = '-' ∨ c.isDigit = true) := by
  obtain ⟨d, ds, hwhole⟩ := List.exists_cons_of_ne_nil h.ne_nil
  have hd : d.isDigit = true := h.digits.1 d (hwhole ▸ List.mem_cons_self)
  rw [text, hwhole]
  cases n.negative with
  | true => exact ⟨'-', _, rfl, .inl rfl⟩
  | false => exact ⟨d, _, rfl, .inr hd⟩

/-- A text that starts with `c`, a sign or a digit, is read as a numeral. -/
private theorem readValue_numeral {c : Char} (h : c = '-' ∨ c.isDigit = true) (cs : List Char)
    (steps : Nat) :
    readValue (steps + 1) (c :: cs)
      = (readNumeral (c :: cs)).map fun r => (.number r.1, r.2) := by
  have hspace : isSpace c = false := by
    rcases h with rfl | h
    · rfl
    · exact (startsValue_of_isDigit h).1
  rw [readValue, skipSpace_cons hspace]
  split
  case h_7 => rfl
  all_goals
    rename_i heq
    obtain ⟨rfl, -⟩ := List.cons.inj heq
    exact absurd h (by decide)

private theorem exists_head_write (l : Layout) (depth : Nat) (v : Json) :
    ∃ c cs, write l depth v = c :: cs ∧ StartsValue c := by
  have hnumeral : ∀ {n : Numeral}, n.Proper → ∃ c cs, n.text = c :: cs ∧ StartsValue c := by
    intro n hn
    obtain ⟨c, cs, htext, hc⟩ := Numeral.exists_head_text hn
    refine ⟨c, cs, htext, ?_⟩
    rcases hc with rfl | hc
    · decide
    · exact startsValue_of_isDigit hc
  cases v with
  | null => exact ⟨_, _, rfl, by decide⟩
  | bool b => cases b <;> exact ⟨_, _, rfl, by decide⟩
  | int n =>
    rw [write, ← Numeral.text_ofInt]
    exact hnumeral (Numeral.proper_ofInt n)
  | float x =>
    rw [write, writeFloat]
    split
    · rw [← Numeral.text_ofFloat]
      exact hnumeral (Numeral.proper_ofFloat x)
    · exact ⟨_, _, rfl, by decide⟩
  | string s => exact ⟨_, _, rfl, by decide⟩
  | array items => cases items <;> exact ⟨_, _, rfl, by decide⟩
  | object members => cases members <;> exact ⟨_, _, rfl, by decide⟩

/-! ### Values -/

section Blanks

variable {space : List Char} (h : ∀ c ∈ space, isSpace c = true)

include h

private theorem closes_append {cs : List Char} (hcs : Closes cs) : Closes (space ++ cs) := by
  cases space with
  | nil => exact hcs
  | cons c cs => exact closes_cons (.inl (h c List.mem_cons_self))

private theorem readValue_append (steps : Nat) (cs : List Char) :
    readValue steps (space ++ cs) = readValue steps cs := by
  cases steps with
  | zero => rw [readValue, readValue]
  | succ steps => rw [readValue, readValue, skipSpace_append h]

private theorem readItems_append (steps : Nat) (cs : List Char) :
    readItems steps (space ++ cs) = readItems steps cs := by
  cases steps with
  | zero => rw [readItems, readItems]
  | succ steps => rw [readItems, readItems, readValue_append h]

private theorem readMembers_append (steps : Nat) (cs : List Char) :
    readMembers steps (space ++ cs) = readMembers steps cs := by
  cases steps with
  | zero => rw [readMembers, readMembers]
  | succ steps => rw [readMembers, readMembers, skipSpace_append h]

end Blanks

/-- An array is read by `readItems`, unless it is empty. -/
private theorem readValue_array {c : Char} {cs cs' : List Char} (h : skipSpace cs = c :: cs')
    (hc : c ≠ ']') (steps : Nat) :
    readValue (steps + 1) ('[' :: cs)
      = (readItems steps (c :: cs')).map fun r => (.array r.1, r.2) := by
  rw [readValue, skipSpace_cons rfl]
  simp only [h]
  split
  · rename_i heq
    exact absurd (List.cons.inj heq).1 hc
  · rfl

/-- An object is read by `readMembers`, unless it is empty. -/
private theorem readValue_object {cs cs' : List Char} (h : skipSpace cs = '"' :: cs')
    (steps : Nat) :
    readValue (steps + 1) ('{' :: cs)
      = (readMembers steps ('"' :: cs')).map fun r => (.object r.1, r.2) := by
  rw [readValue, skipSpace_cons rfl]
  simp only [h]
  rfl

/-- The value `v` is read back from its text in the layout `l`, given enough steps. -/
def ReadsBack (l : Layout) (v : Json) : Prop :=
  ∀ (depth steps : Nat) (rest : List Char), Closes rest →
    2 * (write l depth v).length ≤ steps →
      readValue steps (write l depth v ++ rest) = some (raw v, rest)

/-- No value has an empty text, so there is a step to take for `v`. -/
private theorem readsBack_of_succ {l : Layout} {v : Json}
    (h : ∀ (depth steps : Nat) (rest : List Char), Closes rest →
      2 * (write l depth v).length ≤ steps + 1 →
        readValue (steps + 1) (write l depth v ++ rest) = some (raw v, rest)) :
    ReadsBack l v := by
  intro depth steps rest hrest hsteps
  obtain ⟨c, cs, hhead, -⟩ := exists_head_write l depth v
  have hpos : steps ≠ 0 := by
    rw [hhead, List.length_cons] at hsteps
    omega
  obtain ⟨k, rfl⟩ := Nat.exists_eq_add_one_of_ne_zero hpos
  exact h depth k rest hrest hsteps

private theorem readsBack_of_numeral {l : Layout} {v : Json} {n : Numeral} (hn : n.Proper)
    (hwrite : ∀ depth, write l depth v = n.text) (hraw : raw v = .number n) : ReadsBack l v := by
  refine readsBack_of_succ fun depth steps rest hrest _ => ?_
  obtain ⟨c, cs, htext, hc⟩ := Numeral.exists_head_text hn
  have hread : readNumeral (c :: (cs ++ rest)) = some (n, rest) := by
    rw [← List.cons_append, ← htext]
    exact Numeral.readNumeral_text hn hrest
  rw [hwrite, hraw, htext, List.cons_append, readValue_numeral hc, hread]
  rfl

private theorem writeString_append (s : String) (cs : List Char) :
    writeString s ++ cs = '"' :: (s.toList.flatMap escapeChar ++ '"' :: cs) := by
  simp [writeString]

section Values

variable {l : Layout} (hl : l.Blank) {depth steps : Nat}

/-- The item `v` is read up to what stands behind it, `cs`. -/
private theorem readItems_item {v : Json} (hv : ReadsBack l v) {cs : List Char} (hcs : Closes cs)
    (hsteps : 2 * (write l depth v).length ≤ steps) :
    readItems (steps + 1) (write l depth v ++ cs)
      = match skipSpace cs with
        | ',' :: cs => (readItems steps cs).map fun r => (raw v :: r.1, r.2)
        | ']' :: cs => some ([raw v], cs)
        | _ => none := by
  rw [readItems]
  exact congrArg (Option.bind · _) (hv _ _ _ hcs hsteps)

include hl

/-- The member `name` is read up to what stands behind it, `cs`. -/
private theorem readMembers_member (name : String) {v : Json} (hv : ReadsBack l v) {cs : List Char}
    (hcs : Closes cs) (hsteps : 2 * (write l depth v).length ≤ steps) :
    readMembers (steps + 1) (writeString name ++ (l.colon ++ (write l depth v ++ cs)))
      = match skipSpace cs with
        | ',' :: cs => (readMembers steps cs).map fun r => ((some name, raw v) :: r.1, r.2)
        | '}' :: cs => some ([(some name, raw v)], cs)
        | _ => none := by
  obtain ⟨gap, hcolon, hgap⟩ := hl.colon
  have hvalue : readValue steps (gap ++ (write l depth v ++ cs)) = some (raw v, cs) := by
    rw [readValue_append hgap, hv _ _ _ hcs hsteps]
  rw [writeString_append, readMembers, skipSpace_cons rfl, hcolon, List.cons_append]
  simp only [readString_escape, Option.bind_some,
    skipSpace_cons (show isSpace ':' = false from rfl)]
  exact congrArg (Option.bind · _) hvalue

/-- The items `v` and `vs` of an array are read up to its closing bracket. -/
private theorem readItems_write {v : Json} {vs : List Json} (h : ∀ w ∈ v :: vs, ReadsBack l w)
    {space rest : List Char} (hspace : ∀ c ∈ space, isSpace c = true)
    (hsteps : 2 * ((write l depth v).length + (writeItems l depth vs).length) < steps) :
    readItems steps (write l depth v ++ (writeItems l depth vs ++ (space ++ ']' :: rest)))
      = some (raw v :: rawItems vs, rest) := by
  induction vs generalizing v steps with
  | nil =>
    obtain ⟨k, rfl⟩ := Nat.exists_eq_add_one_of_ne_zero (Nat.ne_zero_of_lt hsteps)
    have hclose : Closes (space ++ ']' :: rest) := closes_append hspace (closes_cons (by simp))
    rw [writeItems, List.length_nil] at hsteps
    rw [writeItems, List.nil_append, readItems_item (h v List.mem_cons_self) hclose (by omega),
      skipSpace_append hspace, skipSpace_cons rfl]
    rfl
  | cons w ws ih =>
    obtain ⟨k, rfl⟩ := Nat.exists_eq_add_one_of_ne_zero (Nat.ne_zero_of_lt hsteps)
    simp only [writeItems, List.length_cons, List.length_append] at hsteps
    have hrest : readItems k
        (l.line depth ++ (write l depth w ++ (writeItems l depth ws ++ (space ++ ']' :: rest))))
          = some (raw w :: rawItems ws, rest) := by
      rw [readItems_append (hl.line depth)]
      exact ih (fun u hu => h u (List.mem_cons_of_mem v hu)) (by omega)
    rw [writeItems, List.cons_append,
      readItems_item (h v List.mem_cons_self) (closes_cons (by simp)) (by omega),
      skipSpace_cons rfl]
    simp only [List.append_assoc, hrest, Option.map_some, rawItems]

/-- The members of an object, the first of them `name`, are read up to its closing bracket. -/
private theorem readMembers_write {name : String} {v : Json} {ms : List (String × Json)}
    (h : ∀ m ∈ (name, v) :: ms, ReadsBack l m.2) {space rest : List Char}
    (hspace : ∀ c ∈ space, isSpace c = true)
    (hsteps : 2 * ((write l depth v).length + (writeMembers l depth ms).length) < steps) :
    readMembers steps (writeString name ++ (l.colon ++ (write l depth v
        ++ (writeMembers l depth ms ++ (space ++ '}' :: rest)))))
      = some ((some name, raw v) :: rawMembers ms, rest) := by
  induction ms generalizing name v steps with
  | nil =>
    obtain ⟨k, rfl⟩ := Nat.exists_eq_add_one_of_ne_zero (Nat.ne_zero_of_lt hsteps)
    have hclose : Closes (space ++ '}' :: rest) := closes_append hspace (closes_cons (by simp))
    have hv : ReadsBack l v := h (name, v) List.mem_cons_self
    rw [writeMembers, List.length_nil] at hsteps
    rw [writeMembers, List.nil_append, readMembers_member hl name hv hclose (by omega),
      skipSpace_append hspace, skipSpace_cons rfl]
    rfl
  | cons m ms ih =>
    obtain ⟨name', w⟩ := m
    obtain ⟨k, rfl⟩ := Nat.exists_eq_add_one_of_ne_zero (Nat.ne_zero_of_lt hsteps)
    have hv : ReadsBack l v := h (name, v) List.mem_cons_self
    simp only [writeMembers, List.length_cons, List.length_append] at hsteps
    have hrest : readMembers k (l.line depth ++ (writeString name' ++ (l.colon ++ (write l depth w
        ++ (writeMembers l depth ms ++ (space ++ '}' :: rest))))))
          = some ((some name', raw w) :: rawMembers ms, rest) := by
      rw [readMembers_append (hl.line depth)]
      exact ih (fun u hu => h u (List.mem_cons_of_mem _ hu)) (by omega)
    rw [writeMembers, List.cons_append, readMembers_member hl name hv (closes_cons (by simp))
      (by omega), skipSpace_cons rfl]
    simp only [List.append_assoc, hrest, Option.map_some, rawMembers]

/-! ### Whole values -/

private theorem readsBack_array {items : List Json} (h : ∀ v ∈ items, ReadsBack l v) :
    ReadsBack l (array items) := by
  refine readsBack_of_succ fun depth k rest hrest hsteps => ?_
  cases items with
  | nil => rfl
  | cons v vs =>
    simp only [write, List.length_cons, List.length_append, List.length_nil] at hsteps
    obtain ⟨c, cs, hhead, hc⟩ := exists_head_write l (depth + 1) v
    have hskip : skipSpace (l.line (depth + 1) ++ (write l (depth + 1) v
        ++ (writeItems l (depth + 1) vs ++ (l.line depth ++ ']' :: rest))))
          = c :: (cs ++ (writeItems l (depth + 1) vs ++ (l.line depth ++ ']' :: rest))) := by
      rw [skipSpace_append (hl.line _), hhead, List.cons_append, skipSpace_cons hc.1]
    have hitems : readItems k (write l (depth + 1) v
        ++ (writeItems l (depth + 1) vs ++ (l.line depth ++ ']' :: rest)))
          = some (raw v :: rawItems vs, rest) :=
      readItems_write hl h (hl.line depth) (by omega)
    rw [hhead, List.cons_append] at hitems
    simp only [write, List.cons_append, List.append_assoc, List.nil_append]
    rw [readValue_array hskip hc.2, hitems]
    rfl

private theorem readsBack_object {members : List (String × Json)}
    (h : ∀ m ∈ members, ReadsBack l m.2) : ReadsBack l (object members) := by
  refine readsBack_of_succ fun depth k rest hrest hsteps => ?_
  cases members with
  | nil => rfl
  | cons m ms =>
    obtain ⟨name, v⟩ := m
    simp only [write, List.length_cons, List.length_append, List.length_nil] at hsteps
    have hmembers : readMembers k (writeString name ++ (l.colon ++ (write l (depth + 1) v
        ++ (writeMembers l (depth + 1) ms ++ (l.line depth ++ '}' :: rest)))))
          = some ((some name, raw v) :: rawMembers ms, rest) :=
      readMembers_write hl h (hl.line depth) (by omega)
    simp only [write, List.cons_append, List.append_assoc, List.nil_append]
    rw [writeString_append] at hmembers ⊢
    rw [readValue_object (by rw [skipSpace_append (hl.line _), skipSpace_cons rfl]), hmembers]
    rfl

/-- **Round trip.** Every value `v` is read back from its text, whatever white space the layout
adds. -/
theorem readsBack (v : Json) : ReadsBack l v :=
  match v with
  | null | bool true | bool false => readsBack_of_succ fun _ _ _ _ _ => rfl
  | int n =>
    readsBack_of_numeral (Numeral.proper_ofInt n) (fun _ => (Numeral.text_ofInt n).symm) rfl
  | float x => by
    by_cases hx : x.isFinite = true
    · refine readsBack_of_numeral (Numeral.proper_ofFloat x) (fun depth => ?_) (if_pos hx)
      rw [write, writeFloat, if_pos hx, Numeral.text_ofFloat]
    · refine readsBack_of_succ fun depth k rest hrest _ => ?_
      rw [write, writeFloat, if_neg hx, raw, if_neg hx]
      rfl
  | string s => by
    refine readsBack_of_succ fun depth k rest hrest _ => ?_
    rw [write, writeString_append, readValue, skipSpace_cons rfl]
    simp only [readString_escape, Option.map_some, raw]
  | array items => readsBack_array hl fun item _ => readsBack item
  | object members => readsBack_object hl fun m _ => readsBack m.2
termination_by sizeOf v
decreasing_by
  · rename_i hmem
    have hsize := List.sizeOf_lt_of_mem hmem
    simp only [array.sizeOf_spec]
    omega
  · rename_i hmem
    have hsize := List.sizeOf_lt_of_mem hmem
    obtain ⟨name, w⟩ := m
    simp only [Prod.mk.sizeOf_spec, object.sizeOf_spec] at hsize ⊢
    omega

/-- The tree of the text that `write` gives for the value `v`. -/
theorem ofChars?_write (v : Json) : Raw.ofChars? (write l 0 v) = some (raw v) := by
  have hread := readsBack hl v 0 (2 * (write l 0 v).length + 1) [] closes_nil (Nat.le_succ _)
  rw [List.append_nil] at hread
  rw [Raw.ofChars?, hread]
  rfl

end Values

/-- A text without white space, the one of `Json.compact`, is read back. -/
theorem ofText?_compact (v : Json) : Raw.ofText? v.compact = some v.raw := by
  rw [Raw.ofText?, compact, String.toList_ofList, ofChars?_write Layout.blank_compact]

/-- A text on lines, the one of `Json.pretty`, is read back. -/
theorem ofText?_pretty (v : Json) : Raw.ofText? v.pretty = some v.raw := by
  rw [Raw.ofText?, pretty, String.toList_ofList, ofChars?_write Layout.blank_pretty]

end RouterTrial.Json
