import SoftAp.CommandLine.Arguments
import SoftAp.Proofs.IntegerLiteral
import SoftAp.Proofs.KeyTable

/-!
# Which texts are frequency ranges

A range is one integer literal, or two with a hyphen between them of which the first is not above
the second.  The first hyphen of a text separates, so neither end is negative.  Any other text is
refused for the first check that it fails: that of its start, of its end, of their order.
-/

namespace SoftAp

/-! ## Literals without a minus sign -/

/-- Only a minus sign makes a literal negative. -/
theorem Text.Literal.nonneg {minusSign : Prop} {text : List Char} {n : Int}
    (h : Literal minusSign text n) (noHyphen : '-' ∉ text) : 0 ≤ n := by
  cases h with
  | plain h => omega
  | plus h => omega
  | minus h allowed => exact absurd List.mem_cons_self noHyphen

namespace CommandLine

/-! ## The grammar -/

/-- The texts of a range.  White space around its ends is ignored. -/
inductive RangeText : List Char → FrequencyRange → Prop
  | single {text : List Char} {frequency : Int32} (noHyphen : '-' ∉ text)
      (h : Text.Literal True (Text.trim text) frequency.toInt) :
      RangeText text ⟨frequency, frequency⟩
  | pair {before after : List Char} {low high : Int32} (noHyphen : '-' ∉ before)
      (hLow : Text.Literal True (Text.trim before) low.toInt)
      (hHigh : Text.Literal True (Text.trim after) high.toInt)
      (ordered : low.toInt ≤ high.toInt) :
      RangeText (before ++ '-' :: after) ⟨low, high⟩

/-- What is said of a text that is not a range.  The side that is not an integer is named as it
stands in the text, with the white space around it. -/
inductive RangeFault : List Char → String → Prop
  | single {text : List Char} {cause : Text.IntegerError} (noHyphen : '-' ∉ text)
      (h : Text.readInt32 (Text.trim text) = .error cause) :
      RangeFault text (String.ofList text ++ ": " ++ cause.message)
  | low {before after : List Char} {cause : Text.IntegerError} (noHyphen : '-' ∉ before)
      (h : Text.readInt32 (Text.trim before) = .error cause) :
      RangeFault (before ++ '-' :: after) (String.ofList before ++ ": " ++ cause.message)
  | high {before after : List Char} {low : Int32} {cause : Text.IntegerError}
      (noHyphen : '-' ∉ before) (hLow : Text.Literal True (Text.trim before) low.toInt)
      (h : Text.readInt32 (Text.trim after) = .error cause) :
      RangeFault (before ++ '-' :: after) (String.ofList after ++ ": " ++ cause.message)
  | order {before after : List Char} {low high : Int32} (noHyphen : '-' ∉ before)
      (hLow : Text.Literal True (Text.trim before) low.toInt)
      (hHigh : Text.Literal True (Text.trim after) high.toInt)
      (reversed : high.toInt < low.toInt) :
      RangeFault (before ++ '-' :: after)
        ("range start " ++ Text.decimal low ++ " is above its end " ++ Text.decimal high)

/-- The ends of a range are in order, and neither is negative. -/
theorem RangeText.within {text : List Char} {range : FrequencyRange} (h : RangeText text range) :
    0 ≤ range.low.toInt ∧ range.low.toInt ≤ range.high.toInt ∧
      range.high.toInt ≤ 2147483647 := by
  have hTrim : ∀ {side : List Char}, '-' ∉ side → '-' ∉ Text.trim side :=
    fun noHyphen hMem => noHyphen ((Text.trim_sublist _).subset hMem)
  cases h with
  | @single _ frequency noHyphen h =>
      exact ⟨h.nonneg (hTrim noHyphen), Int.le_refl _, frequency.toInt_le⟩
  | @pair _ _ low high noHyphen hLow hHigh ordered =>
      exact ⟨hLow.nonneg (hTrim noHyphen), ordered, high.toInt_le⟩

/-- The first hyphen parts a text, unless it has none. -/
theorem hyphen_cases (text : List Char) :
    '-' ∉ text ∨ ∃ before after, text = before ++ '-' :: after ∧ '-' ∉ before := by
  cases hSplit : Text.splitFirst? '-' text with
  | none => exact .inl (Text.splitFirst?_eq_none_iff.mp hSplit)
  | some parts =>
      obtain ⟨before, after⟩ := parts
      exact .inr ⟨before, after, Text.splitFirst?_eq_some hSplit,
        Text.not_mem_of_splitFirst? hSplit⟩

/-- Every text is a range or has a fault. -/
theorem rangeText_or_rangeFault (text : List Char) :
    (∃ range, RangeText text range) ∨ ∃ message, RangeFault text message := by
  obtain noHyphen | ⟨before, after, rfl, noHyphen⟩ := hyphen_cases text
  · cases h : Text.readInt32 (Text.trim text) with
    | error cause => exact .inr ⟨_, .single noHyphen h⟩
    | ok frequency => exact .inl ⟨_, .single noHyphen (Text.readInt32_eq_ok_iff.mp h)⟩
  · cases h : Text.readInt32 (Text.trim before) with
    | error cause => exact .inr ⟨_, .low noHyphen h⟩
    | ok low =>
        have hLow := Text.readInt32_eq_ok_iff.mp h
        cases h' : Text.readInt32 (Text.trim after) with
        | error cause => exact .inr ⟨_, .high noHyphen hLow h'⟩
        | ok high =>
            have hHigh := Text.readInt32_eq_ok_iff.mp h'
            by_cases hOrder : low.toInt ≤ high.toInt
            · exact .inl ⟨_, .pair noHyphen hLow hHigh hOrder⟩
            · exact .inr ⟨_, .order noHyphen hLow hHigh (Int.not_le.mp hOrder)⟩

/-! ## The reader -/

section

variable {text : String} {before after : List Char} {frequency low high : Int32}
  {cause : Text.IntegerError}

theorem readFrequency_of_literal (h : Text.Literal True (Text.trim before) frequency.toInt) :
    readFrequency before = .ok frequency := by
  unfold readFrequency
  rw [Text.readInt32_eq_ok_iff.mpr h]

theorem readFrequency_of_error (h : Text.readInt32 (Text.trim before) = .error cause) :
    readFrequency before = .error (.notInteger (String.ofList before) cause) := by
  unfold readFrequency
  rw [h]

theorem readRange_of_not_mem (noHyphen : '-' ∉ text.toList) :
    readRange text = (readFrequency text.toList).map fun frequency => ⟨frequency, frequency⟩ := by
  unfold readRange
  rw [Text.splitFirst?_eq_none_iff.mpr noHyphen]

theorem readRange_of_toList_eq (hText : text.toList = before ++ '-' :: after)
    (noHyphen : '-' ∉ before) :
    readRange text = (do
      let low ← readFrequency before
      let high ← readFrequency after
      if low ≤ high then return ⟨low, high⟩ else throw (.reversed low high)) := by
  unfold readRange
  rw [hText, Text.splitFirst?_append after noHyphen]

/-- A text of a range is read as the range. -/
theorem readRange_of_rangeText {range : FrequencyRange} (h : RangeText text.toList range) :
    readRange text = .ok range := by
  generalize hText : text.toList = chars at h
  cases h with
  | single noHyphen h =>
      rw [readRange_of_not_mem (hText ▸ noHyphen), hText, readFrequency_of_literal h]
      rfl
  | pair noHyphen hLow hHigh ordered =>
      rw [readRange_of_toList_eq hText noHyphen, readFrequency_of_literal hLow,
        readFrequency_of_literal hHigh]
      exact if_pos (Int32.le_iff_toInt_le.mpr ordered)

/-- A text with a fault is refused, and the fault is what is said of it. -/
theorem readRange_of_rangeFault {message : String} (h : RangeFault text.toList message) :
    ∃ refusal, readRange text = .error refusal ∧ refusal.message = message := by
  generalize hText : text.toList = chars at h
  cases h with
  | single noHyphen h =>
      rw [readRange_of_not_mem (hText ▸ noHyphen), hText, readFrequency_of_error h]
      exact ⟨_, rfl, rfl⟩
  | low noHyphen h =>
      rw [readRange_of_toList_eq hText noHyphen, readFrequency_of_error h]
      exact ⟨_, rfl, rfl⟩
  | high noHyphen hLow h =>
      rw [readRange_of_toList_eq hText noHyphen, readFrequency_of_literal hLow,
        readFrequency_of_error h]
      exact ⟨_, rfl, rfl⟩
  | @order _ _ low high noHyphen hLow hHigh reversed =>
      have hNot : ¬low ≤ high := Int32.not_le.mpr (Int32.lt_iff_toInt_lt.mpr reversed)
      rw [readRange_of_toList_eq hText noHyphen, readFrequency_of_literal hLow,
        readFrequency_of_literal hHigh]
      exact ⟨_, if_neg hNot, rfl⟩

end

/-- A range is read from its texts and from no others, and lies between zero and the largest integer
of 32 bits.  Every other text is refused with the first fault that it has. -/
theorem readRange_follows_grammar (text : String) :
    (∀ range, readRange text = .ok range ↔ RangeText text.toList range) ∧
    (∀ range, readRange text = .ok range →
      0 ≤ range.low.toInt ∧ range.low.toInt ≤ range.high.toInt ∧
        range.high.toInt ≤ 2147483647) ∧
    ∀ message, (∃ refusal, readRange text = .error refusal ∧ refusal.message = message) ↔
      RangeFault text.toList message := by
  -- the answer to a text is the one for its range or its fault, and it has one of the two
  have hText : ∀ range, readRange text = .ok range → RangeText text.toList range := by
    intro range hOk
    obtain ⟨other, h⟩ | ⟨message, h⟩ := rangeText_or_rangeFault text.toList
    · rw [readRange_of_rangeText h] at hOk
      cases hOk
      exact h
    · obtain ⟨_, hError, _⟩ := readRange_of_rangeFault h
      rw [hError] at hOk
      cases hOk
  refine ⟨fun range => ⟨hText range, readRange_of_rangeText⟩,
    fun range hOk => (hText range hOk).within, ?_⟩
  intro message
  refine ⟨?_, readRange_of_rangeFault⟩
  rintro ⟨refusal, hError, rfl⟩
  obtain ⟨range, h⟩ | ⟨message, h⟩ := rangeText_or_rangeFault text.toList
  · rw [readRange_of_rangeText h] at hError
    cases hError
  · obtain ⟨other, hOther, rfl⟩ := readRange_of_rangeFault h
    rw [hOther] at hError
    cases hError
    exact h

/-- An end may have a sign, zeros in front and white space around it.  A hyphen in front of the text
leaves nothing for the start, and behind the first hyphen only zero can have a minus sign. -/
theorem readRange_follows_grammar_of_signs :
    RangeText " +02412 - 2462".toList ⟨2412, 2462⟩ ∧ RangeText "0--0".toList ⟨0, 0⟩ ∧
      RangeFault "-5".toList ": cannot parse integer from empty string" ∧
      RangeFault "5 -\tx".toList "\tx: invalid digit found in string" ∧
      RangeFault "5--0 ".toList "range start 5 is above its end 0" ∧
      0 ≤ (2412 : Int32).toInt ∧ (2412 : Int32).toInt ≤ (2462 : Int32).toInt := by
  obtain ⟨hGrammar, hWithin, -⟩ := readRange_follows_grammar " +02412 - 2462"
  have hRead : readRange " +02412 - 2462" = .ok ⟨2412, 2462⟩ := by decide +kernel
  obtain ⟨hLow, hOrder, -⟩ := hWithin _ hRead
  refine ⟨(hGrammar _).mp hRead, ?_, ?_, ?_, ?_, hLow, hOrder⟩
  · exact ((readRange_follows_grammar "0--0").1 _).mp (by decide +kernel)
  · exact ((readRange_follows_grammar "-5").2.2 _).mp ⟨_, rfl, by decide +kernel⟩
  · exact ((readRange_follows_grammar "5 -\tx").2.2 _).mp ⟨_, rfl, by decide +kernel⟩
  · exact ((readRange_follows_grammar "5--0 ").2.2 _).mp ⟨_, rfl, by decide +kernel⟩

end CommandLine

end SoftAp
