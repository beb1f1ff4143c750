import SoftAp.Proofs.DistinctKeys

/-!
# The operating class and the operating width

The channel and its width are written down by groups of entries that know nothing of each other.
Together they are unambiguous: only the operating class can occur twice, the one of the width is
then the effective one, and all modes that have an operating width have the same.
-/

namespace SoftAp.Config

/-- The operating class of a channel that is not selected automatically. -/
def channelClass? (plan : InstancePlan) : Option Nat :=
  if plan.channel.automatic then none
  else some (OperatingClass.ofChannel plan.channel.channel plan.channel.bands plan.capabilities.n
    plan.capabilities.ac)

/-- The widths that fix the operating width of all modes. -/
def fixedWidths : List Bandwidth :=
  [.mhz20, .mhz40, .mhz80, .mhz160]

/-- The operating class of the width of a channel in the 6 GHz band. -/
def widthClass? (capabilities : Capabilities) (bands : Bands) : Option Nat :=
  if bands.has .ghz6 then
    match capabilities.bandwidth with
    | .mhz20 => some 131
    | .mhz40 => some 132
    | .mhz80 => some 133
    | .mhz160 => some 134
    | _ => if bands.has .ghz60 then none else some (if capabilities.be then 137 else 134)
  else none

/-- The keys of the operating widths, each with the key of its mode. -/
def operatingWidths : List (String × String) :=
  [("eht_oper_chwidth", "ieee80211be"), ("he_oper_chwidth", "ieee80211ax"),
   ("vht_oper_chwidth", "ieee80211ac")]

/-- The operating widths of a configuration agree with each other and with the modes. -/
structure WidthsAgree (bands : Bands) (config : Config) : Prop where
  /-- Two modes that have a width have the same. -/
  same : ∀ first ∈ operatingWidths, ∀ second ∈ operatingWidths,
    ∀ value ∈ config.values first.1, ∀ value' ∈ config.values second.1,
      value ≠ "0" → value' ≠ "0" → value = value'
  /-- A mode that has a width is in use. -/
  used : ∀ width ∈ operatingWidths, ∀ value ∈ config.values width.1, value ≠ "0" →
    config.get? width.2 = some "1"
  /-- In the 60 GHz band neither 802.11be nor 802.11ax has a width. -/
  none60 : bands.has .ghz60 = true → ∀ key ∈ ["eht_oper_chwidth", "he_oper_chwidth"],
    ∀ value ∈ config.values key, value = "0"

/-! ## The values of the groups -/

section

variable {capabilities : Capabilities} {bands : Bands}

theorem isOnly_ghz2_of_has_ghz6 (h : bands.has .ghz6 = true) : bands.isOnly .ghz2 = false := by
  apply Bool.eq_false_iff.mpr
  intro hOnly
  obtain rfl : bands = Band.ghz2.mask := by simpa [Bands.isOnly, Bands.same] using hOnly
  revert h
  decide

theorem valuesOf_opClass_channelEntries (plan : InstancePlan) :
    valuesOf "op_class" (channelEntries plan.capabilities plan.channel) =
      (channelClass? plan).toList.map toString := by
  unfold channelEntries channelClass?
  split <;> simp

theorem widthEntries_of_fixed {width : FixedWidth}
    (h : fixedWidth? capabilities.bandwidth = some width) (bands : Bands) :
    widthEntries capabilities bands = fixedWidthEntries capabilities bands width := by
  unfold widthEntries
  rw [h]

theorem widthEntries_of_open (h : fixedWidth? capabilities.bandwidth = none) (bands : Bands) :
    widthEntries capabilities bands =
      if bands.isOnly .ghz2 || bands.has .ghz60 then []
      else openWidthEntries capabilities bands := by
  unfold widthEntries
  rw [h]

/-- A fixed width brings its own operating class for the 6 GHz band. -/
theorem widthClass?_of_fixed {width : FixedWidth}
    (h : fixedWidth? capabilities.bandwidth = some width) (bands : Bands) :
    widthClass? capabilities bands =
      if bands.has .ghz6 then some width.sixGhzClass else none := by
  unfold widthClass?
  cases hBandwidth : capabilities.bandwidth <;> rw [hBandwidth] at h <;> cases h <;> rfl

/-- Any other width has an operating class in the 6 GHz band without the 60 GHz band. -/
theorem widthClass?_of_open (h : fixedWidth? capabilities.bandwidth = none) (bands : Bands) :
    widthClass? capabilities bands =
      if bands.has .ghz6 && !bands.has .ghz60 then some (if capabilities.be then 137 else 134)
      else none := by
  unfold widthClass?
  cases hBandwidth : capabilities.bandwidth <;> rw [hBandwidth] at h <;> cases h <;>
    cases bands.has .ghz6 <;> cases bands.has .ghz60 <;> rfl

theorem valuesOf_opClass_openWidthEntries (capabilities : Capabilities) (bands : Bands) :
    valuesOf "op_class" (openWidthEntries capabilities bands) =
      if bands.has .ghz6 then [toString (if capabilities.be then 137 else 134)] else [] := by
  have hText : toString (if capabilities.be then 137 else 134) =
      if capabilities.be then "137" else "134" := by
    cases capabilities.be <;> rfl
  rw [hText]
  simp [openWidthEntries]

/-- The width of a channel has an operating class of its own only in the 6 GHz band. -/
theorem valuesOf_opClass_widthEntries (capabilities : Capabilities) (bands : Bands) :
    valuesOf "op_class" (widthEntries capabilities bands) =
      (widthClass? capabilities bands).toList.map toString := by
  cases hWidth : fixedWidth? capabilities.bandwidth with
  | some width =>
      rw [widthEntries_of_fixed hWidth, widthClass?_of_fixed hWidth]
      cases h6 : bands.has .ghz6 <;> simp [fixedWidthEntries, h6]
  | none =>
      rw [widthEntries_of_open hWidth, widthClass?_of_open hWidth]
      cases h6 : bands.has .ghz6 with
      | false =>
          have hNone : valuesOf "op_class" (openWidthEntries capabilities bands) = [] := by
            rw [valuesOf_opClass_openWidthEntries, h6]
            rfl
          split
          · rfl
          · exact hNone
      | true =>
          rw [isOnly_ghz2_of_has_ghz6 h6]
          cases bands.has .ghz60 with
          | false =>
              show valuesOf "op_class" (openWidthEntries capabilities bands) = _
              rw [valuesOf_opClass_openWidthEntries, h6]
              rfl
          | true => rfl

/-- The one width that the modes of a plan can have. -/
def commonWidth (capabilities : Capabilities) : String :=
  match fixedWidth? capabilities.bandwidth with
  | some width => toString width.code
  | none => "1"

/-- Whether the mode with a key is in use. -/
def modeUsed (capabilities : Capabilities) (bands : Bands) (mode : String) : Bool :=
  if mode = "ieee80211be" then usesEht capabilities bands
  else if mode = "ieee80211ax" then usesHe capabilities bands
  else capabilities.ac

theorem widthCode_cases (on : Bool) (width : FixedWidth) :
    widthCode on width = "0" ∨ (on = true ∧ widthCode on width = toString width.code) := by
  unfold widthCode
  cases on with
  | false => exact .inl (by rw [if_neg Bool.false_ne_true]; rfl)
  | true => exact .inr ⟨rfl, by rw [if_pos rfl]⟩

/-- An operating width is 0, or the mode is in use and it is the width that all modes have. -/
theorem width_of_mem_widthEntries {width : String × String} (hWidth : width ∈ operatingWidths)
    {value : String} (hValue : value ∈ valuesOf width.1 (widthEntries capabilities bands)) :
    value = "0" ∨
      (modeUsed capabilities bands width.2 = true ∧ value = commonWidth capabilities) := by
  simp only [operatingWidths, List.mem_cons, List.not_mem_nil, or_false] at hWidth
  cases hKind : fixedWidth? capabilities.bandwidth with
  | some fixed =>
      have hCommon : commonWidth capabilities = toString fixed.code := by
        unfold commonWidth
        rw [hKind]
      rw [widthEntries_of_fixed hKind] at hValue
      rw [hCommon]
      rcases hWidth with rfl | rfl | rfl
      · obtain rfl : value = widthCode (usesEht capabilities bands) fixed := by
          simpa [fixedWidthEntries] using hValue
        exact widthCode_cases _ fixed
      · obtain rfl : value = widthCode (usesHe capabilities bands) fixed := by
          simpa [fixedWidthEntries] using hValue
        exact widthCode_cases _ fixed
      · obtain rfl : value = widthCode capabilities.ac fixed := by
          simpa [fixedWidthEntries] using hValue
        exact widthCode_cases _ fixed
  | none =>
      have hCommon : commonWidth capabilities = "1" := by
        unfold commonWidth
        rw [hKind]
      rw [widthEntries_of_open hKind] at hValue
      rw [hCommon]
      split at hValue
      · cases hValue
      · next hRange =>
        obtain ⟨_, h60⟩ := not_or.mp (mt Bool.or_eq_true_iff.mpr hRange)
        rcases hWidth with rfl | rfl | rfl
        · obtain ⟨be, rfl⟩ : capabilities.be = true ∧ value = "1" := by
            simpa [openWidthEntries] using hValue
          exact .inr ⟨by simp [modeUsed, usesEht, be, h60], rfl⟩
        · obtain ⟨ax, rfl⟩ : capabilities.ax = true ∧ value = "1" := by
            simpa [openWidthEntries] using hValue
          exact .inr ⟨by simp [modeUsed, usesHe, ax, h60], rfl⟩
        · obtain ⟨ac, rfl⟩ : capabilities.ac = true ∧ value = "1" := by
            simpa [openWidthEntries] using hValue
          exact .inr ⟨ac, rfl⟩

end

/-! ## The values of a configuration -/

/-- The keys that are neither about the channel nor about a mode nor about a width. -/
def otherKeys : List String :=
  overlayableKeys ++ identityKeys ++ ["hw_mode"] ++ visibilityKeys ++ meteringKeys ++
    protectionKeys ++ groupKeys ++ tailKeys

section

variable {host : Host} {options : Options} {versions : Versions} {plan : InstancePlan}
  {config : Config} {key : String}

/-- The values of the other keys come from the channel, the modes and the width. -/
theorem values_of_not_other (h : ofPlan host options versions plan = .ok config)
    (hKey : key ∉ otherKeys) :
    ∃ eht, ehtEntries host versions plan = .ok eht ∧
      config.values key =
        valuesOf key (channelEntries plan.capabilities plan.channel) ++
          (valuesOf key [("ieee80211n", flag plan.capabilities.n),
              ("ieee80211ac", flag plan.capabilities.ac)] ++
            (valuesOf key (heEntries plan.capabilities plan.channel.bands) ++
              (valuesOf key eht ++
                valuesOf key (widthEntries plan.capabilities plan.channel.bands)))) := by
  obtain ⟨mode, eht, overlay, _, hEht, hOverlay, rfl⟩ := ofPlan_eq_ok h
  refine ⟨eht, hEht, ?_⟩
  have hNone : ∀ {keys : List String} {entries : List Entry}, keys ⊆ otherKeys →
      Drawn keys entries → valuesOf key entries = [] :=
    fun hOther hDrawn => hDrawn.among.valuesOf_eq_nil fun hMem => hKey (hOther hMem)
  show valuesOf key (planEntries options versions plan overlay eht mode) = _
  -- the groups that are not named in the statement only have other keys
  rw [planEntries_eq, planHead]
  simp only [valuesOf_append, hNone (by decide) (drawn_overlayEntries hOverlay),
    hNone (by decide) (drawn_identityEntries options plan),
    hNone (by decide) (drawn_hardwareMode mode), hNone (by decide) (drawn_visibilityEntries _),
    hNone (by decide) (drawn_meteringEntries _),
    hNone (by decide) (drawn_protectionEntries _ _ _ _),
    hNone (by decide) (drawn_groupEntries plan), hNone (by decide) (drawn_planTail versions plan),
    List.nil_append, List.append_nil, List.append_assoc]

/-- The values of a key that no mode has either come from the channel and the width. -/
theorem values_of_channel_or_width (h : ofPlan host options versions plan = .ok config)
    (hKey : key ∉ otherKeys ++ modeKeys ++ heKeys ++ ehtKeys) :
    config.values key =
      valuesOf key (channelEntries plan.capabilities plan.channel) ++
        valuesOf key (widthEntries plan.capabilities plan.channel.bands) := by
  simp only [List.mem_append, not_or] at hKey
  obtain ⟨⟨⟨hOther, hMode⟩, hHe⟩, hNoEht⟩ := hKey
  obtain ⟨eht, hEht, hValues⟩ := values_of_not_other h hOther
  rw [hValues, (drawn_modeEntries _).among.valuesOf_eq_nil hMode,
    (drawn_heEntries _ _).among.valuesOf_eq_nil hHe,
    (drawn_ehtEntries hEht).among.valuesOf_eq_nil hNoEht]
  rfl

/-- The operating class of the channel stands in front of that of its width. -/
theorem values_opClass (h : ofPlan host options versions plan = .ok config) :
    config.values "op_class" =
      ((channelClass? plan).toList ++
        (widthClass? plan.capabilities plan.channel.bands).toList).map toString := by
  rw [values_of_channel_or_width h (by decide), valuesOf_opClass_channelEntries,
    valuesOf_opClass_widthEntries, List.map_append]

theorem valuesOf_be_ehtEntries {eht : List Entry} (h : ehtEntries host versions plan = .ok eht) :
    valuesOf "ieee80211be" eht = [flag (usesEht plan.capabilities plan.channel.bands)] := by
  unfold ehtEntries at h
  cases hUsed : usesEht plan.capabilities plan.channel.bands with
  | false =>
      rw [hUsed] at h
      cases h
      rfl
  | true =>
      rw [hUsed] at h
      simp only [Bool.not_true, Bool.false_eq_true, if_false] at h
      split at h
      · split at h
        · cases h
        · cases h
          cases plan.multiLink <;> simp [flag]
      · cases h
        rfl

/-- Every mode that has an operating width says whether it is in use. -/
theorem values_mode (h : ofPlan host options versions plan = .ok config)
    {width : String × String} (hWidth : width ∈ operatingWidths) :
    config.values width.2 =
      [flag (modeUsed plan.capabilities plan.channel.bands width.2)] := by
  have hOther : ∀ width ∈ operatingWidths, width.2 ∉ otherKeys ∧ width.2 ∉ channelKeys ∧
      width.2 ∉ widthKeys := by decide
  obtain ⟨hKey, hChannel, hNoWidth⟩ := hOther width hWidth
  obtain ⟨eht, hEht, hValues⟩ := values_of_not_other h hKey
  rw [hValues, (drawn_channelEntries _ _).among.valuesOf_eq_nil hChannel,
    (drawn_widthEntries _ _).among.valuesOf_eq_nil hNoWidth]
  simp only [operatingWidths, List.mem_cons, List.not_mem_nil, or_false] at hWidth
  rcases hWidth with rfl | rfl | rfl
  · rw [(drawn_modeEntries _).among.valuesOf_eq_nil (by decide),
      (drawn_heEntries _ _).among.valuesOf_eq_nil (by decide), valuesOf_be_ehtEntries hEht]
    rfl
  · rw [(drawn_modeEntries _).among.valuesOf_eq_nil (by decide),
      (drawn_ehtEntries hEht).among.valuesOf_eq_nil (by decide)]
    unfold heEntries modeUsed
    cases usesHe plan.capabilities plan.channel.bands <;> simp [flag]
  · rw [(drawn_heEntries _ _).among.valuesOf_eq_nil (by decide),
      (drawn_ehtEntries hEht).among.valuesOf_eq_nil (by decide)]
    simp [modeUsed]

/-- The operating widths are those of the entries of the width. -/
theorem values_width (h : ofPlan host options versions plan = .ok config)
    {width : String × String} (hWidth : width ∈ operatingWidths) :
    config.values width.1 =
      valuesOf width.1 (widthEntries plan.capabilities plan.channel.bands) := by
  have hOther : ∀ width ∈ operatingWidths, width.1 ∉ channelKeys ∧
      width.1 ∉ otherKeys ++ modeKeys ++ heKeys ++ ehtKeys := by decide
  obtain ⟨hChannel, hKey⟩ := hOther width hWidth
  rw [values_of_channel_or_width h hKey,
    (drawn_channelEntries _ _).among.valuesOf_eq_nil hChannel, List.nil_append]

theorem widthsAgree_ofPlan (h : ofPlan host options versions plan = .ok config) :
    WidthsAgree plan.channel.bands config := by
  have hCases : ∀ width ∈ operatingWidths, ∀ value ∈ config.values width.1, value = "0" ∨
      (modeUsed plan.capabilities plan.channel.bands width.2 = true ∧
        value = commonWidth plan.capabilities) := by
    intro width hWidth value hValue
    rw [values_width h hWidth] at hValue
    exact width_of_mem_widthEntries hWidth hValue
  constructor
  case same =>
    intro first hFirst second hSecond value hValue value' hValue' hNonzero hNonzero'
    obtain ⟨_, hCommon⟩ := (hCases first hFirst value hValue).resolve_left hNonzero
    obtain ⟨_, hCommon'⟩ := (hCases second hSecond value' hValue').resolve_left hNonzero'
    rw [hCommon, hCommon']
  case used =>
    intro width hWidth value hValue hNonzero
    obtain ⟨hUsed, _⟩ := (hCases width hWidth value hValue).resolve_left hNonzero
    rw [get?_eq_getLast?_values, values_mode h hWidth, hUsed]
    rfl
  case none60 =>
    intro h60 key hKey value hValue
    -- with the 60 GHz band neither mode is in use, so neither has a width
    have hMode : ∃ mode, (key, mode) ∈ operatingWidths ∧
        modeUsed plan.capabilities plan.channel.bands mode = false := by
      simp only [List.mem_cons, List.not_mem_nil, or_false] at hKey
      rcases hKey with rfl | rfl
      · exact ⟨"ieee80211be", by decide, by simp [modeUsed, usesEht, h60]⟩
      · exact ⟨"ieee80211ax", by decide, by simp [modeUsed, usesHe, h60]⟩
    obtain ⟨mode, hWidth, hUnused⟩ := hMode
    apply (hCases (key, mode) hWidth value hValue).resolve_right
    rintro ⟨hUsed, _⟩
    rw [hUnused] at hUsed
    cases hUsed

/-- A width has an operating class in the 6 GHz band, unless it is not fixed and the 60 GHz band may
be used as well. -/
theorem isSome_widthClass?_iff (capabilities : Capabilities) (bands : Bands) :
    (widthClass? capabilities bands).isSome = true ↔
      bands.has .ghz6 = true ∧
        (capabilities.bandwidth ∈ fixedWidths ∨ bands.has .ghz60 = false) := by
  unfold widthClass?
  cases bands.has .ghz6 <;> cases bands.has .ghz60 <;> cases capabilities.bandwidth <;>
    simp [fixedWidths]

end

/-- No key but the operating class occurs twice.  That of the channel stands in front of that of the
width, which is therefore the effective one, and there are both of them exactly if the channel is
not selected automatically, the 6 GHz band may be used, and the width is fixed or the 60 GHz band
may not be used.  The operating widths agree with each other and with the modes. -/
theorem ofPlan_unambiguous {host : Host} {options : Options} {versions : Versions}
    {plan : InstancePlan} {config : Config}
    (made : ofPlan host options versions plan = .ok config) :
    (∀ key, key ≠ "op_class" → (config.values key).length ≤ 1) ∧
    (config.values "op_class").length ≤ 2 ∧
    ((config.values "op_class").length = 2 ↔
      plan.channel.automatic = false ∧ plan.channel.bands.has .ghz6 = true ∧
        (plan.capabilities.bandwidth ∈ fixedWidths ∨ plan.channel.bands.has .ghz60 = false)) ∧
    config.get? "op_class" =
      ((widthClass? plan.capabilities plan.channel.bands).or (channelClass? plan)).map toString ∧
    WidthsAgree plan.channel.bands config := by
  have hClass := isSome_widthClass?_iff plan.capabilities plan.channel.bands
  have hChannel : (channelClass? plan).isSome = true ↔ plan.channel.automatic = false := by
    unfold channelClass?
    cases plan.channel.automatic <;> simp
  refine ⟨fun key hKey => length_values_le_one made hKey, ?_, ?_, ?_, widthsAgree_ofPlan made⟩
  · rw [values_opClass made]
    cases channelClass? plan <;> cases widthClass? plan.capabilities plan.channel.bands <;> simp
  · rw [values_opClass made, ← hChannel, ← hClass]
    cases channelClass? plan <;> cases widthClass? plan.capabilities plan.channel.bands <;> simp
  · rw [get?_eq_getLast?_values, values_opClass made]
    cases channelClass? plan <;> cases widthClass? plan.capabilities plan.channel.bands <;> rfl

end SoftAp.Config

namespace SoftAp

/-- The plan of an instance on channel 5 of the 6 GHz band, which is 80 MHz wide. -/
def Sample.widePlan : InstancePlan :=
  { name := "a"
    capabilities := { ac := true, ax := true, be := true, bandwidth := .mhz80 }
    channel := { bands := Band.mask .ghz6, channel := 5 } }

/-- The configuration of this plan. -/
def Sample.wideConfig : Config :=
  ⟨Config.planEntries {} {} widePlan [] [("ieee80211be", "1")] "a"⟩

namespace Config

/-- The operating class of the channel alone is that of 20 MHz; effective is that of 80 MHz. -/
theorem ofPlan_unambiguous_of_wide :
    ofPlan Sample.host {} {} Sample.widePlan = .ok Sample.wideConfig ∧
      (Sample.wideConfig.values "op_class").length = 2 ∧
      channelClass? Sample.widePlan = some 131 ∧
      Sample.wideConfig.get? "op_class" = some "133" ∧
      WidthsAgree (Band.mask .ghz6) Sample.wideConfig := by
  have made : ofPlan Sample.host {} {} Sample.widePlan = .ok Sample.wideConfig := by rfl
  obtain ⟨-, -, hTwice, hEffective, hAgree⟩ := ofPlan_unambiguous made
  exact ⟨made, hTwice.mpr (by decide), by decide, hEffective.trans (by decide), hAgree⟩

end Config

end SoftAp
