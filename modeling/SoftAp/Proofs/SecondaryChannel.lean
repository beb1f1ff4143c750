import SoftAp.Proofs.Canonical
import SoftAp.Proofs.DecimalText
import SoftAp.Proofs.OperatingClass
import SoftAp.Proofs.OperatingWidth

/-!
# The side of the secondary channel

A channel of 40 MHz has a secondary channel above or below the primary one.  The operating class of
a channel says on which side, and so do the capabilities that a width brings along.  These always
name the upper side, so the two agree for the channels with the secondary one above and disagree
for those with the secondary one below.
-/

namespace SoftAp

/-- The side of the primary channel on which the secondary one lies. -/
inductive Side
  | above
  | below
  deriving DecidableEq, Repr

namespace OperatingClass

/-- The side that an operating class stands for. -/
def side? (number : Nat) : Option Side :=
  if number ∈ [83, 116, 119, 122, 126] then some .above
  else if number ∈ [84, 117, 120, 123, 127] then some .below
  else none

/-- The channels of the 5 GHz band with the secondary channel above them. -/
def upperChannels : List Int :=
  [36, 44, 52, 60, 100, 108, 116, 124, 132, 140, 149, 157]

/-- The channels of the 5 GHz band with the secondary channel below them. -/
def lowerChannels : List Int :=
  [40, 48, 56, 64, 104, 112, 120, 128, 136, 144, 153, 161]

/-- The side for a channel that is used with 802.11n. -/
def sideInBand? (channel : Int) : Band → Option Side
  | .ghz2 =>
      if 1 ≤ channel ∧ channel ≤ 9 then some .above
      else if 10 ≤ channel ∧ channel ≤ 13 then some .below
      else none
  | .ghz5 =>
      if channel ∈ upperChannels then some .above
      else if channel ∈ lowerChannels then some .below
      else none
  | .ghz6 | .ghz60 => none

/-- The side for a channel in the lowest band of a set. -/
def sideOfChannel? (spec : ChannelSpec) : Option Side :=
  spec.bands.lowest?.bind (sideInBand? spec.channel.toInt)

section

variable (channel : Int) (ac : Bool)

theorem side?_ofGhz2 : side? (ofGhz2 channel true) = sideInBand? channel .ghz2 := by
  unfold ofGhz2 sideInBand?
  simp only [Bool.not_true, Bool.false_eq_true, and_false, if_false]
  split_ifs <;> first | rfl | omega

theorem side?_ofGhz5Wide : side? (ofGhz5Wide channel) = sideInBand? channel .ghz5 := by
  by_cases hUpper : channel ∈ upperChannels
  · simp only [upperChannels, List.mem_cons, List.not_mem_nil, or_false] at hUpper
    obtain rfl | rfl | rfl | rfl | rfl | rfl | rfl | rfl | rfl | rfl | rfl | rfl := hUpper <;> rfl
  · by_cases hLower : channel ∈ lowerChannels
    · simp only [lowerChannels, List.mem_cons, List.not_mem_nil, or_false] at hLower
      obtain rfl | rfl | rfl | rfl | rfl | rfl | rfl | rfl | rfl | rfl | rfl | rfl := hLower <;> rfl
    · -- a channel of 40 MHz is on one of the two lists
      have hNone : ofGhz5Wide channel = unknown := by
        simp only [upperChannels, lowerChannels, List.mem_cons, List.not_mem_nil, or_false,
          not_or] at hUpper hLower
        simp [ofGhz5Wide, hUpper, hLower]
      rw [hNone, sideInBand?, if_neg hUpper, if_neg hLower]
      rfl

/-- The centres of the channels of 80 and 160 MHz are no channels of 40 MHz. -/
theorem side?_ofGhz5 : side? (ofGhz5 channel true ac) = sideInBand? channel .ghz5 := by
  unfold ofGhz5
  split
  · next hWide =>
    simp only [List.mem_cons, List.not_mem_nil, or_false] at hWide
    obtain ⟨-, rfl | rfl | rfl | rfl | rfl | rfl⟩ := hWide <;> rfl
  · split
    · next hWidest =>
      simp only [List.mem_cons, List.not_mem_nil, or_false] at hWidest
      obtain ⟨-, rfl | rfl⟩ := hWidest <;> rfl
    · exact side?_ofGhz5Wide channel

theorem side?_ofGhz6 : side? (ofGhz6 channel) = none := by
  unfold ofGhz6
  split_ifs <;> rfl

theorem side?_ofGhz60 : side? (ofGhz60 channel) = none := by
  unfold ofGhz60
  split_ifs <;> rfl

end

/-- With 802.11n the operating class of a channel stands for the side of the channel. -/
theorem side?_ofChannel (spec : ChannelSpec) (ac : Bool) :
    side? (ofChannel spec.channel spec.bands true ac) = sideOfChannel? spec := by
  rw [ofChannel_eq, sideOfChannel?]
  cases spec.bands.lowest? with
  | none => rfl
  | some band =>
      cases band with
      | ghz2 => exact side?_ofGhz2 _
      | ghz5 => exact side?_ofGhz5 _ ac
      | ghz6 => exact side?_ofGhz6 _
      | ghz60 => exact side?_ofGhz60 _

end OperatingClass

namespace Config

/-- The capabilities name the upper side exactly if the effective operating class stands for it,
where there are both and the class stands for a side. -/
def SidesAgree (config : Config) : Prop :=
  ∀ number side value, config.get? "op_class" = some (toString number) →
    OperatingClass.side? number = some side → config.get? "ht_capab" = some value →
      (value = "[HT40+]" ↔ side = .above)

/-- A side is named for the fixed widths above 20 MHz, and for a width that is not fixed if 802.11ac
is used and the network is not a pure 2.4 GHz network. -/
def NamesSide (capabilities : Capabilities) (bands : Bands) : Prop :=
  capabilities.bandwidth ∈ [.mhz40, .mhz80, .mhz160] ∨
    capabilities.bandwidth ∉ fixedWidths ∧ capabilities.ac = true ∧ bands.isOnly .ghz2 = false

instance (capabilities : Capabilities) (bands : Bands) :
    Decidable (NamesSide capabilities bands) :=
  inferInstanceAs (Decidable (_ ∨ _))

theorem namesSide_of_fixed {capabilities : Capabilities} {width : FixedWidth}
    (h : fixedWidth? capabilities.bandwidth = some width) (bands : Bands) :
    NamesSide capabilities bands ↔ width.ht40 = true := by
  unfold NamesSide
  cases hBandwidth : capabilities.bandwidth <;> rw [hBandwidth] at h <;> cases h <;>
    simp [fixedWidths]

theorem namesSide_of_open {capabilities : Capabilities}
    (h : fixedWidth? capabilities.bandwidth = none) (bands : Bands) :
    NamesSide capabilities bands ↔ capabilities.ac = true ∧ bands.isOnly .ghz2 = false := by
  unfold NamesSide
  cases hBandwidth : capabilities.bandwidth <;> rw [hBandwidth] at h <;> cases h <;>
    simp [fixedWidths]

/-- Whatever the width, the side is the upper one. -/
theorem valuesOf_htCapab_widthEntries (capabilities : Capabilities) {bands : Bands}
    (no60 : bands.has .ghz60 = false) :
    valuesOf "ht_capab" (widthEntries capabilities bands) =
      if NamesSide capabilities bands then ["[HT40+]"] else [] := by
  cases hWidth : fixedWidth? capabilities.bandwidth with
  | some width =>
      simp only [widthEntries_of_fixed hWidth, namesSide_of_fixed hWidth]
      cases hHt : width.ht40 <;> simp [fixedWidthEntries, hHt]
  | none =>
      simp only [widthEntries_of_open hWidth, namesSide_of_open hWidth, no60, Bool.or_false]
      cases bands.isOnly .ghz2 <;> cases hAc : capabilities.ac <;>
        simp [openWidthEntries, hAc]

section

variable {host : Host} {options : Options} {versions : Versions} {plan : InstancePlan}
  {config : Config}

theorem get?_htCapab (made : ofPlan host options versions plan = .ok config)
    (no60 : plan.channel.bands.has .ghz60 = false) :
    config.get? "ht_capab" =
      if NamesSide plan.capabilities plan.channel.bands then some "[HT40+]" else none := by
  rw [get?_eq_getLast?_values, values_of_channel_or_width made (by decide),
    (drawn_channelEntries _ _).among.valuesOf_eq_nil (by decide), List.nil_append,
    valuesOf_htCapab_widthEntries _ no60]
  split <;> rfl

/-- Outside the 6 GHz band the operating class of the channel is the effective one. -/
theorem get?_opClass (made : ofPlan host options versions plan = .ok config)
    (chosen : plan.channel.automatic = false) (no6 : plan.channel.bands.has .ghz6 = false) :
    config.get? "op_class" = some (toString (OperatingClass.ofChannel plan.channel.channel
      plan.channel.bands plan.capabilities.n plan.capabilities.ac)) := by
  have hWidth : widthClass? plan.capabilities plan.channel.bands = none := by
    unfold widthClass?
    rw [no6]
    rfl
  have hChannel : channelClass? plan = some (OperatingClass.ofChannel plan.channel.channel
      plan.channel.bands plan.capabilities.n plan.capabilities.ac) := by
    unfold channelClass?
    rw [chosen]
    rfl
  rw [get?_eq_getLast?_values, values_opClass made, hWidth, hChannel]
  rfl

/-- Where one channel is used with 802.11n outside the 6 and 60 GHz bands, the capabilities always
name the upper side, and the effective operating class stands for the side of the channel.  The two
agree unless a side is named for a channel with the secondary one below. -/
theorem ofPlan_sidesAgree_iff (made : ofPlan host options versions plan = .ok config)
    (chosen : plan.channel.automatic = false) (n : plan.capabilities.n = true)
    (no6 : plan.channel.bands.has .ghz6 = false) (no60 : plan.channel.bands.has .ghz60 = false) :
    (∀ value, config.get? "ht_capab" = some value → value = "[HT40+]") ∧
    (config.contains "ht_capab" = true ↔ NamesSide plan.capabilities plan.channel.bands) ∧
    (∃ number, config.get? "op_class" = some (toString number) ∧
      OperatingClass.side? number = OperatingClass.sideOfChannel? plan.channel) ∧
    (config.SidesAgree ↔ ¬(NamesSide plan.capabilities plan.channel.bands ∧
      OperatingClass.sideOfChannel? plan.channel = some .below)) := by
  have hCapab := get?_htCapab made no60
  have hClass := get?_opClass made chosen no6
  rw [n] at hClass
  have hSide := OperatingClass.side?_ofChannel plan.channel plan.capabilities.ac
  refine ⟨?_, ?_, ⟨_, hClass, hSide⟩, ?_⟩
  · intro value hValue
    rw [hCapab] at hValue
    split at hValue
    · exact (Option.some.inj hValue).symm
    · cases hValue
  · rw [contains_eq_isSome, hCapab]
    split
    · next hNames => simp [hNames]
    · next hNot => simp [hNot]
  · constructor
    · rintro hAgree ⟨hNames, hBelow⟩
      rw [if_pos hNames] at hCapab
      have hAbove := (hAgree _ _ _ hClass (hSide.trans hBelow) hCapab).mp rfl
      cases hAbove
    · intro hNot number side value hNumber hNumberSide hValue
      -- the class that is read from the text is that of the channel
      obtain rfl := Text.toString_inj.mp (Option.some.inj (hClass.symm.trans hNumber))
      rw [hCapab] at hValue
      split at hValue
      · next hNames =>
        obtain rfl := Option.some.inj hValue
        cases side with
        | above => simp
        | below => exact absurd ⟨hNames, hSide.symm.trans hNumberSide⟩ hNot
      · cases hValue

end

end Config

/-- The plan of an instance of 40 MHz with 802.11n on a channel of the 2.4 GHz band. -/
def Sample.bondedPlan (channel : Int32) : InstancePlan :=
  { name := "a"
    capabilities := { n := true, bandwidth := .mhz40 }
    channel := { bands := Band.mask .ghz2, channel := channel } }

/-- The configuration of this plan. -/
def Sample.bondedConfig (channel : Int32) : Config :=
  ⟨Config.planEntries {} {} (bondedPlan channel) [] [("ieee80211be", "0")] "g"⟩

namespace Config

/-- On channel 6 the secondary channel lies above, which is what both say. -/
theorem ofPlan_sidesAgree_of_upper :
    ofPlan Sample.host {} {} (Sample.bondedPlan 6) = .ok (Sample.bondedConfig 6) ∧
      (Sample.bondedConfig 6).contains "ht_capab" = true ∧ (Sample.bondedConfig 6).SidesAgree := by
  have made : ofPlan Sample.host {} {} (Sample.bondedPlan 6) = .ok (Sample.bondedConfig 6) := by
    rfl
  obtain ⟨-, hNames, -, hAgree⟩ :=
    ofPlan_sidesAgree_iff made rfl rfl (by decide) (by decide)
  exact ⟨made, hNames.mpr (by decide), hAgree.mpr (by decide)⟩

/-- On channel 11 the operating class stands for the lower side, but the capabilities name the upper
one. -/
theorem ofPlan_not_sidesAgree_of_lower :
    ofPlan Sample.host {} {} (Sample.bondedPlan 11) = .ok (Sample.bondedConfig 11) ∧
      (Sample.bondedPlan 11).channel.automatic = false ∧
      (Sample.bondedPlan 11).capabilities.n = true ∧
      (Sample.bondedPlan 11).channel.bands.has .ghz6 = false ∧
      (Sample.bondedPlan 11).channel.bands.has .ghz60 = false ∧
      (Sample.bondedConfig 11).get? "op_class" = some (toString 84) ∧
      (Sample.bondedConfig 11).get? "ht_capab" = some "[HT40+]" ∧
      ¬(Sample.bondedConfig 11).SidesAgree := by
  have hClass : (Sample.bondedConfig 11).get? "op_class" = some (toString 84) := by rfl
  have hCapab : (Sample.bondedConfig 11).get? "ht_capab" = some "[HT40+]" := by rfl
  refine ⟨rfl, rfl, rfl, by decide, by decide, hClass, hCapab, ?_⟩
  intro hAgree
  have hAbove := (hAgree 84 .below _ hClass rfl hCapab).mp rfl
  cases hAbove

end Config

end SoftAp
