import Mathlib.Data.Nat.Bitwise
import SoftAp.Proofs.BandSet
import SoftAp.Proofs.OperatingClass

/-!
# The ones at the end of a channel number

In the 6 GHz band the centre of a channel twice as wide has a number with one more one at its end,
so the class of a channel is told by how many ones its number ends in.  Which band decides is told
by the lowest band of the set alone, and each band looks at the modes that its table knows.
-/

namespace SoftAp

/-- The lowest band is told by the four bits of the bands. -/
theorem Bands.lowest?_congr {bands other : Bands}
    (h : ∀ place < 4, bands.bit place = other.bit place) : bands.lowest? = other.lowest? := by
  have hHas : (fun band => bands.has band) = fun band => other.has band := by
    funext band
    have hPlace : band.place < 4 := by cases band <;> decide
    rw [has_eq_bit, has_eq_bit, h _ hPlace]
  rw [lowest?, hHas, lowest?]

namespace OperatingClass

/-- The two's complement of a channel number ends in exactly a number of ones. -/
def EndsInOnes (count : Nat) (channel : Int32) : Prop :=
  (∀ place < count, channel.toBitVec.getLsbD place = true) ∧
    channel.toBitVec.getLsbD count = false

/-- The remainder of a channel number by a power of two is told by its last bits, whatever its
sign. -/
theorem toInt_emod_two_pow (channel : Int32) {width : Nat} (h : width ≤ 32) :
    channel.toInt % 2 ^ width = ((channel.toBitVec.toNat % 2 ^ width : Nat) : Int) := by
  have hDvd : (2 ^ width : Int) ∣ ((2 ^ 32 : Nat) : Int) := by
    have := pow_dvd_pow (2 : Int) h
    exact_mod_cast this
  show channel.toBitVec.toInt % 2 ^ width = _
  rw [BitVec.toInt_eq_toNat_bmod, ← Int.emod_emod_of_dvd _ hDvd, Int.bmod_emod,
    Int.emod_emod_of_dvd _ hDvd]
  norm_cast

/-- The last bits of a number are ones behind a zero exactly if its remainder is one less than half
of the power of two. -/
theorem mod_two_pow_eq_iff (number count : Nat) :
    number % 2 ^ (count + 1) = 2 ^ count - 1 ↔
      (∀ place < count, number.testBit place = true) ∧ number.testBit count = false := by
  constructor
  · intro h
    have hBit : ∀ place < count + 1, number.testBit place = decide (place < count) := by
      intro place hPlace
      have := congrArg (fun n => n.testBit place) h
      simpa [Nat.testBit_mod_two_pow, Nat.testBit_two_pow_sub_one, hPlace] using this
    refine ⟨fun place hPlace => ?_, ?_⟩
    · rw [hBit place (by omega), decide_eq_true hPlace]
    · rw [hBit count (by omega)]
      simp
  · rintro ⟨hOnes, hZero⟩
    apply Nat.eq_of_testBit_eq
    intro place
    rw [Nat.testBit_mod_two_pow, Nat.testBit_two_pow_sub_one]
    rcases Nat.lt_trichotomy place count with hPlace | rfl | hPlace
    · simp [hOnes place hPlace, hPlace, Nat.lt_succ_of_lt hPlace]
    · simp [hZero]
    · have hAbove : ¬place < count + 1 := by omega
      simp [hAbove, Nat.lt_asymm hPlace]

theorem endsInOnes_iff {count : Nat} (h : count < 32) (channel : Int32) :
    EndsInOnes count channel ↔ channel.toInt % 2 ^ (count + 1) = 2 ^ count - 1 := by
  have hOnes : (2 ^ count - 1 : Int) = ((2 ^ count - 1 : Nat) : Int) := by
    rw [Int.natCast_sub Nat.one_le_two_pow]
    norm_cast
  rw [toInt_emod_two_pow channel (Nat.succ_le_of_lt h), hOnes, Int.natCast_inj]
  exact (mod_two_pow_eq_iff _ _).symm

/-! ## The 6 GHz band -/

section

variable {channel : Int32}

/-- One to four ones at the end stand for the classes of 20, 40, 80 and 160 MHz. -/
theorem ofGhz6_of_endsInOnes {count : Nat} (one_le : 1 ≤ count) (le_four : count ≤ 4)
    (h : EndsInOnes count channel) : ofGhz6 channel.toInt = 130 + count := by
  have hMod := (endsInOnes_iff (by omega) channel).mp h
  unfold ofGhz6
  obtain rfl | rfl | rfl | rfl : count = 1 ∨ count = 2 ∨ count = 3 ∨ count = 4 := by omega
  · exact if_pos hMod
  · rw [if_neg (by omega)]
    exact if_pos hMod
  · rw [if_neg (by omega), if_neg (by omega)]
    exact if_pos hMod
  · rw [if_neg (by omega), if_neg (by omega), if_neg (by omega)]
    exact if_pos hMod

/-- A number that does not end so has no class, apart from channel 2. -/
theorem ofGhz6_of_not_endsInOnes
    (h : ∀ count, 1 ≤ count → count ≤ 4 → ¬EndsInOnes count channel) (ne_two : channel ≠ 2) :
    ofGhz6 channel.toInt = unknown := by
  have hMod : ∀ count, 1 ≤ count → count ≤ 4 →
      ¬channel.toInt % 2 ^ (count + 1) = 2 ^ count - 1 := by
    intro count one_le le_four
    rw [← endsInOnes_iff (by omega) channel]
    exact h count one_le le_four
  have hOne : ¬channel.toInt % 4 = 1 := hMod 1 (by decide) (by decide)
  have hTwo : ¬channel.toInt % 8 = 3 := hMod 2 (by decide) (by decide)
  have hThree : ¬channel.toInt % 16 = 7 := hMod 3 (by decide) (by decide)
  have hFour : ¬channel.toInt % 32 = 15 := hMod 4 (by decide) (by decide)
  have hEven : ¬channel.toInt = 2 := fun hEq => ne_two (Int32.toInt_inj.mp hEq)
  rw [ofGhz6, if_neg hOne, if_neg hTwo, if_neg hThree, if_neg hFour, if_neg hEven]

end

/-! ## What a class depends on -/

/-- Each band looks at the modes that its table knows. -/
theorem ofBand_congr {band : Band} (channel : Int) {n n' ac ac' : Bool}
    (hN : band = .ghz2 ∨ band = .ghz5 → n = n') (hAc : band = .ghz5 → ac = ac') :
    ofBand channel n ac band = ofBand channel n' ac' band := by
  cases band with
  | ghz2 => rw [hN (.inl rfl)]; rfl
  | ghz5 => rw [hN (.inr rfl), hAc rfl]
  | ghz6 => rfl
  | ghz60 => rfl

/-- Sets with the same lowest band give a channel the same class, if they agree on 802.11n in the
2.4 and 5 GHz bands and on 802.11ac in the 5 GHz band. -/
theorem ofChannel_congr (channel : Int32) {bands other : Bands} {n n' ac ac' : Bool}
    (hLowest : bands.lowest? = other.lowest?)
    (hN : bands.lowest? = some .ghz2 ∨ bands.lowest? = some .ghz5 → n = n')
    (hAc : bands.lowest? = some .ghz5 → ac = ac') :
    ofChannel channel bands n ac = ofChannel channel other n' ac' := by
  rw [ofChannel_eq, ofChannel_eq, ← hLowest]
  cases hBand : bands.lowest? with
  | none => rfl
  | some band =>
      rw [hBand] at hN hAc
      exact ofBand_congr channel.toInt (fun h => hN (h.imp (congrArg some) (congrArg some)))
        fun h => hAc (congrArg some h)

/-- Where the lowest band is that of 6 GHz, a channel number that ends in one to four ones has the
class that is so much above 130, channel 2 has class 136, and no other channel has one.  In every
band the class depends on the lowest band of the set alone, on 802.11n only in the 2.4 and 5 GHz
bands, and on 802.11ac only in the 5 GHz band. -/
theorem ofChannel_of_lowest_band (channel : Int32) (bands : Bands) (n ac : Bool) :
    (bands.has .ghz2 = false → bands.has .ghz5 = false → bands.has .ghz6 = true →
      (∀ count, 1 ≤ count → count ≤ 4 → EndsInOnes count channel →
        ofChannel channel bands n ac = 130 + count) ∧
      (channel = 2 → ofChannel channel bands n ac = 136) ∧
      ((∀ count, 1 ≤ count → count ≤ 4 → ¬EndsInOnes count channel) → channel ≠ 2 →
        ofChannel channel bands n ac = unknown)) ∧
    (∀ other n' ac', bands.lowest? = other.lowest? →
      (bands.lowest? = some .ghz2 ∨ bands.lowest? = some .ghz5 → n = n') →
      (bands.lowest? = some .ghz5 → ac = ac') →
      ofChannel channel bands n ac = ofChannel channel other n' ac') ∧
    ∀ other, (∀ place < 4, bands.bit place = other.bit place) →
      ofChannel channel bands n ac = ofChannel channel other n ac := by
  refine ⟨?_, fun other n' ac' => ofChannel_congr channel, ?_⟩
  · intro no2 no5 has6
    have hSix : ofChannel channel bands n ac = ofGhz6 channel.toInt := by
      simp [ofChannel, no2, no5, has6]
    rw [hSix]
    refine ⟨fun count one_le le_four => ofGhz6_of_endsInOnes one_le le_four, ?_,
      ofGhz6_of_not_endsInOnes⟩
    rintro rfl
    rfl
  · intro other hBits
    exact ofChannel_congr channel (Bands.lowest?_congr hBits) (fun _ => rfl) fun _ => rfl

/-- Channel -17 ends in four ones, so it has class 134 in every set whose lowest band is that of
6 GHz, also in one that holds 60 GHz and a bit without meaning. -/
theorem ofChannel_of_lowest_band_of_negative :
    EndsInOnes 4 (-17) ∧ ofChannel (-17) ⟨28⟩ true true = 134 ∧
      ofChannel (-17) ⟨28⟩ true true = ofChannel (-17) (Band.mask .ghz6) false false := by
  have hOnes : EndsInOnes 4 (-17) := by
    unfold EndsInOnes
    decide
  obtain ⟨hSix, hLocal, -⟩ := ofChannel_of_lowest_band (-17) ⟨28⟩ true true
  refine ⟨hOnes, ?_, ?_⟩
  · exact (hSix (by decide) (by decide) (by decide)).1 4 (by decide) (by decide) hOnes
  · exact hLocal (Band.mask .ghz6) false false (by decide) (by decide) (by decide)

end OperatingClass

end SoftAp
