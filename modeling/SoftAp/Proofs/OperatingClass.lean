import Mathlib.Tactic.Common
import SoftAp.OperatingClass

/-!
# Which channels have an operating class

The lowest band of a set decides about the class of a channel.  In the 2.4, 5 and 60 GHz bands only
channels of the band have one.  In the 6 GHz band the class is told by the low bits of the channel
number alone, so it is repeated every 32 channels, also beyond the band.
-/

namespace SoftAp

/-- The lowest band of a set. -/
def Bands.lowest? (bands : Bands) : Option Band :=
  [Band.ghz2, .ghz5, .ghz6, .ghz60].find? fun band => bands.has band

/-- The channels of a band lie between its first and its last one. -/
def Band.HasChannel : Band → Int → Prop
  | .ghz2, channel => 1 ≤ channel ∧ channel ≤ 14
  | .ghz5, channel => 36 ≤ channel ∧ channel ≤ 169
  | .ghz6, channel => 1 ≤ channel ∧ channel ≤ 233
  | .ghz60, channel => 1 ≤ channel ∧ channel ≤ 29

instance (band : Band) (channel : Int) : Decidable (band.HasChannel channel) :=
  match band with
  | .ghz2 | .ghz5 | .ghz6 | .ghz60 => inferInstanceAs (Decidable (_ ∧ _))

namespace OperatingClass

/-- The operating class of a channel in one band. -/
def ofBand (channel : Int) (n ac : Bool) : Band → Nat
  | .ghz2 => ofGhz2 channel n
  | .ghz5 => ofGhz5 channel n ac
  | .ghz6 => ofGhz6 channel
  | .ghz60 => ofGhz60 channel

/-- The lowest band decides. -/
theorem ofChannel_eq (channel : Int32) (bands : Bands) (n ac : Bool) :
    ofChannel channel bands n ac = bands.lowest?.elim unknown (ofBand channel.toInt n ac) := by
  unfold ofChannel Bands.lowest?
  cases h2 : bands.has .ghz2 <;> cases h5 : bands.has .ghz5 <;> cases h6 : bands.has .ghz6 <;>
    cases h60 : bands.has .ghz60 <;> simp [h2, h5, h6, h60, ofBand]

section

variable {channel : Int} {n ac : Bool}

theorem hasChannel_of_ofGhz2 (h : ofGhz2 channel n ≠ unknown) : Band.ghz2.HasChannel channel := by
  show 1 ≤ channel ∧ channel ≤ 14
  unfold ofGhz2 at h
  split_ifs at h <;> omega

theorem hasChannel_of_ofGhz5Narrow (h : ofGhz5Narrow channel ≠ unknown) :
    Band.ghz5.HasChannel channel := by
  show 36 ≤ channel ∧ channel ≤ 169
  unfold ofGhz5Narrow at h
  split_ifs at h <;> omega

theorem hasChannel_of_ofGhz5Wide (h : ofGhz5Wide channel ≠ unknown) :
    Band.ghz5.HasChannel channel := by
  show 36 ≤ channel ∧ channel ≤ 169
  unfold ofGhz5Wide at h
  simp only [List.mem_cons, List.not_mem_nil, or_false] at h
  split_ifs at h <;> omega

theorem hasChannel_of_ofGhz5 (h : ofGhz5 channel n ac ≠ unknown) :
    Band.ghz5.HasChannel channel := by
  unfold ofGhz5 at h
  split_ifs at h with hWide hWidest hN
  · simp only [List.mem_cons, List.not_mem_nil, or_false] at hWide
    show 36 ≤ channel ∧ channel ≤ 169
    omega
  · simp only [List.mem_cons, List.not_mem_nil, or_false] at hWidest
    show 36 ≤ channel ∧ channel ≤ 169
    omega
  · exact hasChannel_of_ofGhz5Wide h
  · exact hasChannel_of_ofGhz5Narrow h

theorem hasChannel_of_ofGhz60 (h : ofGhz60 channel ≠ unknown) :
    Band.ghz60.HasChannel channel := by
  show 1 ≤ channel ∧ channel ≤ 29
  unfold ofGhz60 at h
  split_ifs at h <;> omega

/-- Outside the 6 GHz band, a channel with an operating class is one of the band. -/
theorem hasChannel_of_ofBand {band : Band} (h : ofBand channel n ac band ≠ unknown)
    (hBand : band ≠ .ghz6) : band.HasChannel channel := by
  cases band with
  | ghz2 => exact hasChannel_of_ofGhz2 h
  | ghz5 => exact hasChannel_of_ofGhz5 h
  | ghz6 => exact absurd rfl hBand
  | ghz60 => exact hasChannel_of_ofGhz60 h

/-- In the 6 GHz band a class is told by whether the channel is odd and does not end in five ones.
-/
theorem ofGhz6_ne_unknown_iff (channel : Int) :
    ofGhz6 channel ≠ unknown ↔ channel = 2 ∨ channel % 2 = 1 ∧ channel % 32 ≠ 31 := by
  unfold ofGhz6 unknown
  split_ifs <;> omega

end

/-- A channel has an operating class only if the lowest band of the set has the channel, except for
the channels beyond the 6 GHz band which have the class of a channel of the band. -/
theorem ofChannel_inBand_iff (channel : Int32) (bands : Bands) (n ac : Bool) :
    (ofChannel channel bands n ac ≠ unknown →
      ∃ band, bands.lowest? = some band ∧ band.HasChannel channel.toInt) ↔
    ¬(bands.lowest? = some .ghz6 ∧ ¬Band.ghz6.HasChannel channel.toInt ∧
      channel.toInt % 2 = 1 ∧ channel.toInt % 32 ≠ 31) := by
  rw [ofChannel_eq]
  cases bands.lowest? with
  | none =>
      constructor
      · rintro - ⟨hBand, -⟩
        cases hBand
      · exact fun _ hClass => absurd rfl hClass
  | some band =>
      by_cases hBand : band = .ghz6
      · subst hBand
        have hClass := ofGhz6_ne_unknown_iff channel.toInt
        constructor
        · rintro hInside ⟨-, hBeyond, hOdd, hOnes⟩
          obtain ⟨_, hBand, hChannel⟩ := hInside (hClass.mpr (.inr ⟨hOdd, hOnes⟩))
          obtain rfl := Option.some.inj hBand
          exact hBeyond hChannel
        · intro hNot hDefined
          refine ⟨.ghz6, rfl, ?_⟩
          by_contra hBeyond
          -- the one even channel with a class is in the band
          obtain hTwo | ⟨hOdd, hOnes⟩ := hClass.mp hDefined
          · rw [hTwo] at hBeyond
            exact hBeyond (by decide)
          · exact hNot ⟨rfl, hBeyond, hOdd, hOnes⟩
      · constructor
        · rintro - ⟨hSix, -⟩
          exact hBand (Option.some.inj hSix)
        · exact fun _ hClass => ⟨band, rfl, hasChannel_of_ofBand hClass hBand⟩

/-- Channel 237 lies behind the last channel of the 6 GHz band, and -3 in front of its first, but
they have the class of the 20 MHz channels. -/
theorem ofChannel_beyond_band :
    ofChannel 237 (Band.mask .ghz6) false false = 131 ∧
      ofChannel (-3) (Band.mask .ghz6) false false = 131 ∧
      ¬∀ (channel : Int32) (bands : Bands) (n ac : Bool),
        ofChannel channel bands n ac ≠ unknown →
          ∃ band, bands.lowest? = some band ∧ band.HasChannel channel.toInt := by
  refine ⟨by decide, by decide, ?_⟩
  intro h
  obtain ⟨band, hLowest, hChannel⟩ := h 237 (Band.mask .ghz6) false false (by decide)
  obtain rfl : Band.ghz6 = band := Option.some.inj hLowest
  exact absurd hChannel (by decide)

end OperatingClass

end SoftAp
