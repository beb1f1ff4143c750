import SoftAp.Proofs.DecimalText
import SoftAp.Proofs.OperatingWidth
import SoftAp.Proofs.RangeText

/-!
# Lists of frequency ranges

The ranges for automatic selection are written with commas between them.  The text of a range has no
comma, and the first hyphen behind its first character parts its ends.  So different lists have
different texts, whatever their bounds, and ranges that are neither negative nor reversed are read
back from the pieces as they are given on the command line.
-/

namespace SoftAp

/-- A text with separators between its pieces is cut into the pieces. -/
theorem Text.splitAll_intercalate {separator : Char} {pieces : List String}
    (nonempty : pieces ≠ []) (h : ∀ piece ∈ pieces, separator ∉ piece.toList) :
    splitAll separator (String.intercalate (String.singleton separator) pieces).toList =
      pieces.map String.toList := by
  induction pieces with
  | nil => exact absurd rfl nonempty
  | cons piece rest ih =>
      obtain ⟨hPiece, hRest⟩ := List.forall_mem_cons.mp h
      cases rest with
      | nil =>
          rw [String.intercalate_singleton, splitAll_of_not_mem hPiece]
          rfl
      | cons next others =>
          rw [String.intercalate_cons_cons, String.toList_append, String.toList_append,
            String.toList_singleton, List.append_assoc, List.singleton_append,
            splitAll_append _ hPiece, ih (List.cons_ne_nil _ _) hRest]
          rfl

namespace Config

/-! ## The text of a range -/

theorem toList_rangeText (range : FrequencyRange) :
    (rangeText range).toList =
      if range.low ≠ range.high then
        (Text.decimal range.low).toList ++ '-' :: (Text.decimal range.high).toList
      else (Text.decimal range.low).toList := by
  unfold rangeText
  split
  · rw [String.toList_append, String.toList_append, List.append_assoc]
    rfl
  · rfl

theorem not_mem_rangeText (range : FrequencyRange) : ',' ∉ (rangeText range).toList := by
  have hDecimal : ∀ n : Int32, ',' ∉ (Text.decimal n).toList := by
    intro n hMem
    exact absurd (Text.isDigit_or_minus_of_mem_decimal hMem) (by decide)
  rw [toList_rangeText]
  split
  · simp [hDecimal]
  · exact hDecimal range.low

theorem toList_rangeText_ne_nil (range : FrequencyRange) : (rangeText range).toList ≠ [] := by
  rw [toList_rangeText]
  split
  · simp
  · exact Text.toList_decimal_ne_nil range.low

/-- A hyphen in front is the sign of the lower end; the next one parts the ends. -/
theorem splitFirst?_tail_rangeText (range : FrequencyRange) :
    Text.splitFirst? '-' (rangeText range).toList.tail =
      if range.low ≠ range.high then
        some ((Text.decimal range.low).toList.tail, (Text.decimal range.high).toList)
      else none := by
  have hTail : '-' ∉ (Text.decimal range.low).toList.tail := by
    intro hMem
    exact absurd (Text.isDigit_of_mem_tail_decimal hMem) (by decide)
  rw [toList_rangeText]
  split
  · rw [List.tail_append_of_ne_nil (Text.toList_decimal_ne_nil _),
      Text.splitFirst?_append _ hTail]
  · exact Text.splitFirst?_eq_none_iff.mpr hTail

/-- Different ranges have different texts. -/
theorem rangeText_injective : Function.Injective rangeText := by
  rintro ⟨low, high⟩ ⟨low', high'⟩ hSame
  have hEnds := splitFirst?_tail_rangeText ⟨low, high⟩
  rw [hSame, splitFirst?_tail_rangeText] at hEnds
  have hText := congrArg String.toList hSame
  rw [toList_rangeText, toList_rangeText] at hText
  -- the hyphen behind the first character tells whether there are two ends, and where to part them
  by_cases hPair : low ≠ high
  · by_cases hPair' : low' ≠ high'
    · rw [if_pos hPair', if_pos hPair] at hEnds
      obtain ⟨-, hHigh⟩ := Prod.mk.inj (Option.some.inj hEnds)
      rw [if_pos hPair, if_pos hPair', hHigh] at hText
      have hLow := List.append_cancel_right hText
      obtain rfl : low = low' := Text.decimal_inj.mp (String.toList_inj.mp hLow)
      obtain rfl : high' = high := Text.decimal_inj.mp (String.toList_inj.mp hHigh)
      rfl
    · rw [if_neg hPair', if_pos hPair] at hEnds
      cases hEnds
  · by_cases hPair' : low' ≠ high'
    · rw [if_pos hPair', if_neg hPair] at hEnds
      cases hEnds
    · rw [if_neg hPair, if_neg hPair'] at hText
      obtain rfl : low = low' := Text.decimal_inj.mp (String.toList_inj.mp hText)
      obtain rfl : low = high := not_not.mp hPair
      obtain rfl : low = high' := not_not.mp hPair'
      rfl

/-- The text of an integer is an end of a range as it stands. -/
theorem literal_trim_decimal (n : Int32) :
    Text.Literal True (Text.trim (Text.decimal n).toList) n.toInt := by
  have hBlank : ∀ c ∈ (Text.decimal n).toList, Text.isBlank c = false := by
    intro c hMem
    rcases Text.isDigit_or_minus_of_mem_decimal hMem with hDigit | rfl
    · exact Text.not_isBlank_of_isDigit hDigit
    · decide
  rw [Text.trim_of_not_blank hBlank]
  exact Text.literal_decimal n

/-- A range that is neither negative nor reversed is read back from its text. -/
theorem readRange_rangeText {range : FrequencyRange} (nonneg : 0 ≤ range.low)
    (ordered : range.low ≤ range.high) :
    CommandLine.readRange (rangeText range) = .ok range := by
  obtain ⟨low, high⟩ := range
  have hLow : 0 ≤ low.toInt := Int32.le_iff_toInt_le.mp nonneg
  have hOrder : low.toInt ≤ high.toInt := Int32.le_iff_toInt_le.mp ordered
  have noHyphen := Text.not_mem_decimal_of_nonneg hLow
  apply CommandLine.readRange_of_rangeText
  rw [toList_rangeText]
  split
  · exact .pair noHyphen (literal_trim_decimal low) (literal_trim_decimal high) hOrder
  · next hSame =>
    obtain rfl : low = high := not_not.mp hSame
    exact .single noHyphen (literal_trim_decimal low)

/-! ## The text of a list -/

theorem splitAll_frequencyList {ranges : List FrequencyRange} (nonempty : ranges ≠ []) :
    Text.splitAll ',' (frequencyList ranges).toList =
      ranges.map fun range => (rangeText range).toList := by
  have hPieces : ranges.map rangeText ≠ [] := List.map_eq_nil_iff.not.mpr nonempty
  have hComma : ∀ piece ∈ ranges.map rangeText, ',' ∉ piece.toList := by
    rintro piece hMem
    obtain ⟨range, _, rfl⟩ := List.mem_map.mp hMem
    exact not_mem_rangeText range
  have hSplit := Text.splitAll_intercalate hPieces hComma
  rwa [List.map_map] at hSplit

theorem frequencyList_ne_empty {ranges : List FrequencyRange} (nonempty : ranges ≠ []) :
    frequencyList ranges ≠ "" := by
  intro hEmpty
  have hSplit := splitAll_frequencyList nonempty
  rw [hEmpty] at hSplit
  obtain ⟨range, rest, rfl⟩ := List.exists_cons_of_ne_nil nonempty
  exact toList_rangeText_ne_nil range (List.cons.inj hSplit).1.symm

/-- Different lists of ranges have different texts. -/
theorem frequencyList_injective : Function.Injective frequencyList := by
  intro ranges others hSame
  by_cases hRanges : ranges = []
  · subst hRanges
    by_contra hOthers
    exact frequencyList_ne_empty (Ne.symm hOthers) hSame.symm
  · by_cases hOthers : others = []
    · subst hOthers
      exact absurd hSame (frequencyList_ne_empty hRanges)
    · have hSplit := splitAll_frequencyList hRanges
      rw [hSame, splitAll_frequencyList hOthers] at hSplit
      have hInjective : Function.Injective fun range => (rangeText range).toList :=
        fun _ _ hText => rangeText_injective (String.toList_inj.mp hText)
      exact (hInjective.list_map hSplit).symm

/-! ## The entry of a list -/

/-- The list that a channel specification asks to be selected from, as it is written. -/
def listText? (capabilities : Capabilities) (spec : ChannelSpec) : Option String :=
  Config.get? "freqlist" ⟨channelEntries capabilities spec⟩

theorem listText?_of_automatic {spec : ChannelSpec} (automatic : spec.automatic = true)
    (capabilities : Capabilities) :
    listText? capabilities spec = some (frequencyList spec.ranges) := by
  unfold listText? channelEntries get?
  rw [if_pos automatic]
  simp [lastValue?]

/-- No other group of entries has a list, so that of the channel is the effective one. -/
theorem get?_freqlist {host : Host} {options : Options} {versions : Versions}
    {plan : InstancePlan} {config : Config}
    (made : ofPlan host options versions plan = .ok config) :
    config.get? "freqlist" = listText? plan.capabilities plan.channel := by
  rw [get?_eq_getLast?_values, values_of_channel_or_width made (by decide),
    (drawn_widthEntries _ _).among.valuesOf_eq_nil (by decide), List.append_nil, listText?,
    get?_eq_getLast?_values]
  rfl

/-- Two channel specifications with automatic selection have the same list exactly if they have the
same ranges, whatever the bounds of these are.  Of ranges that are neither negative nor reversed the
list is cut at its commas into pieces that are read as the ranges, in their order. -/
theorem listText?_keeps_ranges {spec spec' : ChannelSpec} (automatic : spec.automatic = true)
    (automatic' : spec'.automatic = true) (capabilities capabilities' : Capabilities) :
    (listText? capabilities spec = listText? capabilities' spec' ↔ spec.ranges = spec'.ranges) ∧
    (∃ text, listText? capabilities spec = some text ∧
      (spec.ranges ≠ [] → (∀ range ∈ spec.ranges, 0 ≤ range.low ∧ range.low ≤ range.high) →
        ((Text.splitAll ',' text.toList).map fun piece =>
            CommandLine.readRange (String.ofList piece)) =
          spec.ranges.map .ok)) ∧
    ∀ host options versions plan config, ofPlan host options versions plan = .ok config →
      plan.channel = spec → config.get? "freqlist" = listText? plan.capabilities spec := by
  refine ⟨?_, ⟨_, listText?_of_automatic automatic capabilities, ?_⟩, ?_⟩
  · rw [listText?_of_automatic automatic, listText?_of_automatic automatic', Option.some.injEq]
    exact frequencyList_injective.eq_iff
  · intro nonempty hRanges
    rw [splitAll_frequencyList nonempty, List.map_map]
    apply List.map_congr_left
    intro range hMem
    obtain ⟨nonneg, ordered⟩ := hRanges range hMem
    rw [Function.comp_apply, String.ofList_toList]
    exact readRange_rangeText nonneg ordered
  · rintro host options versions plan config made rfl
    exact get?_freqlist made

/-- A reversed range and a negative one have texts of their own; two ranges of the 2.4 GHz band are
read back. -/
theorem listText?_keeps_ranges_of_samples :
    let asked := fun ranges => ({ automatic := true, ranges := ranges } : ChannelSpec)
    listText? {} (asked [⟨5, -7⟩]) ≠ listText? {} (asked [⟨5, 7⟩]) ∧
      listText? {} (asked [⟨-5, 7⟩]) ≠ listText? {} (asked [⟨5, 7⟩]) ∧
      ∃ text, listText? {} (asked [⟨2412, 2462⟩, ⟨2484, 2484⟩]) = some text ∧
        ((Text.splitAll ',' text.toList).map fun piece =>
            CommandLine.readRange (String.ofList piece)) =
          [.ok ⟨2412, 2462⟩, .ok ⟨2484, 2484⟩] := by
  intro asked
  have hAsked : ∀ ranges, (asked ranges).automatic = true := fun _ => rfl
  have hDiffer : ∀ ranges ranges', ranges ≠ ranges' →
      listText? {} (asked ranges) ≠ listText? {} (asked ranges') := by
    intro ranges ranges' hNe hSame
    exact hNe ((listText?_keeps_ranges (hAsked ranges) (hAsked ranges') {} {}).1.mp hSame)
  refine ⟨hDiffer _ _ (by decide), hDiffer _ _ (by decide), ?_⟩
  obtain ⟨text, hText, hRead⟩ :=
    (listText?_keeps_ranges (hAsked [⟨2412, 2462⟩, ⟨2484, 2484⟩]) (hAsked []) {} {}).2.1
  exact ⟨text, hText, hRead (by decide) (by decide)⟩

end Config

end SoftAp
