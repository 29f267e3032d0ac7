import RouterTrial.Proofs.Text.Case
import RouterTrial.Status

/-!
# Words for statuses

A text stands for the status of a word exactly if it is the word, but for white space around it and
for the case of its ASCII letters; all other texts stand for a failure
(`Status.ofText_eq_iff_and_congr`). So a character that is neither ASCII nor white space makes a
text a failure, also one whose lower-case form is ASCII or has ASCII characters in it.
-/

namespace RouterTrial

/-! ### Texts that are alike -/

namespace Text

theorem EqUpToCase.symm {s t : String} (h : EqUpToCase s t) : EqUpToCase t s := Eq.symm h

theorem EqUpToCase.trans {s t u : String} (h : EqUpToCase s t) (h' : EqUpToCase t u) :
    EqUpToCase s u :=
  Eq.trans h h'

/-- The case of the character `c` does not make it white space. -/
private theorem isBlank_toLower (c : Char) : isBlank c.toLower = isBlank c := by
  rcases Nat.lt_or_ge c.toNat 128 with hc | hc
  · exact forall_ascii (p := fun c => isBlank c.toLower = isBlank c) (by decide) hc
  · rw [toLower_of_not_ascii hc]

private theorem trimChars_map_toLower (cs : List Char) :
    trimChars (cs.map Char.toLower) = (trimChars cs).map Char.toLower := by
  have hblank : isBlank ∘ Char.toLower = isBlank := funext isBlank_toLower
  simp only [trimChars, trimStart, dropEndWhile, List.dropWhile_map, ← List.map_reverse, hblank]

theorem EqUpToCase.trim {s t : String} (h : EqUpToCase s t) :
    EqUpToCase (Text.trim s) (Text.trim t) := by
  rw [EqUpToCase, trim_toList, trim_toList, ← trimChars_map_toLower, ← trimChars_map_toLower]
  exact congrArg trimChars h

end Text

namespace Status

/-! ### Words -/

/-- The words for a status other than a failure. -/
def words : List String := ["charged", "succeeded", "authorized", "declined"]

private theorem ofWord_eq_charged_iff {word : String} :
    ofWord word = charged ↔ word = "charged" ∨ word = "succeeded" := by
  unfold ofWord
  split <;> simp_all

private theorem ofWord_eq_authorized_iff {word : String} :
    ofWord word = authorized ↔ word = "authorized" := by
  unfold ofWord
  split <;> simp_all

private theorem ofWord_eq_declined_iff {word : String} :
    ofWord word = declined ↔ word = "declined" := by
  unfold ofWord
  split <;> simp_all

private theorem ofWord_eq_failure_iff {word : String} : ofWord word = failure ↔ word ∉ words := by
  unfold ofWord words
  split <;> simp_all

/-- Texts that are the same `words` have the same status. -/
private theorem ofWord_congr {form form' : String}
    (h : ∀ word ∈ words, form = word ↔ form' = word) : ofWord form = ofWord form' := by
  by_cases hmem : form ∈ words
  · rw [(h form hmem).mp rfl]
  · have hmem' : form' ∉ words := by
      intro hmem'
      exact hmem ((h form' hmem').mpr rfl ▸ hmem')
    rw [ofWord_eq_failure_iff.mpr hmem, ofWord_eq_failure_iff.mpr hmem']

/-- All `words` are plain ones in lower case. -/
private theorem plain_of_mem_words : ∀ word ∈ words,
    Text.Plain word.toList ∧ word.toList.map Char.toLower = word.toList := by
  decide

/-- The form of the text `s` is one of the words exactly if `s` is, but for the case of its
letters. -/
private theorem lower_eq_iff {word : String} (hword : word ∈ words) (s : String) :
    Text.lower s = word ↔ Text.EqUpToCase s word := by
  obtain ⟨hplain, hlower⟩ := plain_of_mem_words word hword
  rw [Text.EqUpToCase, hlower, ← String.toList_inj, Text.lower_toList,
    Text.map_lowerChar_eq_iff hplain]

theorem lowerCase_eq_iff {word : String} (hword : word ∈ words)
    (endsWord : List Char → List Char → Bool) (s : String) :
    String.ofList (Text.lowerCase endsWord [] s.toList) = word ↔ Text.EqUpToCase s word := by
  obtain ⟨hplain, hlower⟩ := plain_of_mem_words word hword
  rw [Text.EqUpToCase, hlower, ← String.toList_inj, String.toList_ofList,
    Text.lowerCase_eq_iff hplain]

/-! ### Texts -/

/-- The status of the text `raw` is that of the words that it is once it is trimmed, but for the
case of its letters. -/
theorem ofWord_eq_ofText {form raw : String}
    (h : ∀ word ∈ words, form = word ↔ Text.EqUpToCase (Text.trim raw) word) :
    ofWord form = ofText raw := by
  refine ofWord_congr fun word hword => ?_
  rw [h word hword, lower_eq_iff hword]

theorem ofText_eq_failure_iff {raw : String} :
    ofText raw = failure ↔ ∀ word ∈ words, ¬Text.EqUpToCase (Text.trim raw) word := by
  rw [ofText, ofWord_eq_failure_iff]
  constructor
  · intro h word hword heq
    rw [← lower_eq_iff hword] at heq
    exact h (heq ▸ hword)
  · intro h hmem
    exact h _ hmem ((lower_eq_iff hmem _).mp rfl)

theorem ofText_succeeded : ofText "succeeded" = charged := by decide +kernel

theorem ofText_failed : ofText "failed" = failure := by decide +kernel

/-- A character `c` that is neither ASCII nor white space makes a text a failure. -/
theorem ofText_eq_failure_of_mem {raw : String} {c : Char} (hmem : c ∈ raw.toList)
    (hblank : Text.isBlank c = false) (hc : 128 ≤ c.toNat) : ofText raw = failure := by
  rw [ofText_eq_failure_iff]
  intro word hword heq
  obtain ⟨hplain, hlower⟩ := plain_of_mem_words word hword
  rw [← hlower] at hplain
  have hkept : c ∈ (Text.trim raw).toList := by
    rw [Text.trim_toList]
    exact Text.mem_trimChars hmem hblank
  have := heq.lt_of_mem hplain hkept
  omega

/-- White space around the text `raw` does not change its status. -/
theorem ofText_pad {before behind : List Char} (hbefore : Text.Blank before)
    (hbehind : Text.Blank behind) (raw : String) :
    ofText (String.ofList (before ++ raw.toList ++ behind)) = ofText raw := by
  rw [ofText, ofText, Text.trim, String.toList_ofList, Text.trimChars_append hbefore hbehind,
    Text.trim]

/-- The case of the ASCII letters of the text `raw` does not change its status. -/
theorem ofText_eq_of_eqUpToCase {raw raw' : String} (h : Text.EqUpToCase raw raw') :
    ofText raw' = ofText raw := by
  refine ofWord_eq_ofText fun word hword => ?_
  rw [lower_eq_iff hword]
  exact ⟨h.trim.trans, h.trim.symm.trans⟩

/-- **Words for statuses.** A text stands for a status other than a failure exactly if it is a word
of that status, but for white space around it and for the case of its ASCII letters
(`Text.EqUpToCase`). White space and the case of ASCII letters do not change the status, and the
status is that of the complete lower-case form, whichever sigmas end a word. -/
theorem ofText_eq_iff_and_congr (raw : String) :
    (ofText raw = charged ↔
        Text.EqUpToCase (Text.trim raw) "charged" ∨ Text.EqUpToCase (Text.trim raw) "succeeded") ∧
      (ofText raw = authorized ↔ Text.EqUpToCase (Text.trim raw) "authorized") ∧
      (ofText raw = declined ↔ Text.EqUpToCase (Text.trim raw) "declined") ∧
      (ofText raw = failure ↔ ∀ word ∈ ["charged", "succeeded", "authorized", "declined"],
        ¬Text.EqUpToCase (Text.trim raw) word) ∧
      (∀ c ∈ raw.toList, Text.isBlank c = false → 128 ≤ c.toNat → ofText raw = failure) ∧
      (∀ before behind, Text.Blank before → Text.Blank behind →
        ofText (String.ofList (before ++ raw.toList ++ behind)) = ofText raw) ∧
      (∀ raw', Text.EqUpToCase raw raw' → ofText raw' = ofText raw) ∧
      ∀ endsWord : List Char → List Char → Bool,
        ofWord (String.ofList (Text.lowerCase endsWord [] (Text.trim raw).toList))
          = ofText raw := by
  refine ⟨?_, ?_, ?_, ofText_eq_failure_iff, fun c => ofText_eq_failure_of_mem,
    fun before behind hbefore hbehind => ofText_pad hbefore hbehind raw,
    fun raw' => ofText_eq_of_eqUpToCase, fun endsWord => ?_⟩
  · rw [ofText, ofWord_eq_charged_iff, lower_eq_iff (by decide), lower_eq_iff (by decide)]
  · rw [ofText, ofWord_eq_authorized_iff, lower_eq_iff (by decide)]
  · rw [ofText, ofWord_eq_declined_iff, lower_eq_iff (by decide)]
  · exact ofWord_eq_ofText fun word hword => lowerCase_eq_iff hword endsWord (Text.trim raw)

/-- The lower-case form of a dotted capital *I* holds an *i*, and still it is no *i* in a word. -/
example : ofText "author\u0130zed" = failure ∧ ofText " AuthorIzed\u3000" = authorized := by decide

end Status

end RouterTrial
