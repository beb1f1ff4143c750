import Mathlib.Tactic.Common
import SoftAp.Bands

/-!
# Sets of bands

The mask of a list of bands has the bits of its bands and no others, so neither the order of the
list nor how often a band occurs in it can be told from the mask.
-/

namespace SoftAp

/-- The place of the bit of a band. -/
def Band.place : Band → Nat
  | .ghz2 => 0
  | .ghz5 => 1
  | .ghz6 => 2
  | .ghz60 => 3

theorem Band.toBitVec_mask (band : Band) :
    band.mask.bits.toBitVec = BitVec.twoPow 32 band.place := by
  cases band <;> rfl

namespace Bands

/-- Whether a bit of a mask is set. -/
def bit (place : Nat) (bands : Bands) : Bool :=
  bands.bits.toBitVec.getLsbD place

@[simp] theorem bit_empty (place : Nat) : bit place {} = false := by
  simp [bit]

@[simp] theorem bit_union (place : Nat) (first second : Bands) :
    (first.union second).bit place = (first.bit place || second.bit place) := by
  simp [bit, union]

@[simp] theorem bit_mask (place : Nat) (band : Band) :
    band.mask.bit place = decide (place = band.place) := by
  have hWidth : band.place < 32 := by cases band <;> decide
  rw [bit, Band.toBitVec_mask, BitVec.getLsbD_twoPow, Bool.eq_iff_iff]
  simp [hWidth, eq_comm]

/-- A mask is known by its bits. -/
theorem ext_bit {first second : Bands} (h : ∀ place, first.bit place = second.bit place) :
    first = second := by
  have hBits : first.bits.toBitVec = second.bits.toBitVec :=
    BitVec.eq_of_getLsbD_eq fun place _ => h place
  cases first
  cases second
  exact congrArg Bands.mk (UInt32.toBitVec_inj.mp hBits)

/-- A band is in a set if its bit is set. -/
theorem has_eq_bit (band : Band) (bands : Bands) : bands.has band = bands.bit band.place := by
  have hAnd : (bands.bits &&& band.mask.bits).toBitVec =
      if bands.bit band.place then BitVec.twoPow 32 band.place else 0#32 := by
    rw [UInt32.toBitVec_and, Band.toBitVec_mask, BitVec.and_twoPow]
    rfl
  unfold has intersects
  cases hBit : bands.bit band.place with
  | false =>
      rw [hBit] at hAnd
      have hZero : bands.bits &&& band.mask.bits = 0 := UInt32.toBitVec_inj.mp hAnd
      rw [hZero]
      rfl
  | true =>
      rw [hBit] at hAnd
      apply bne_iff_ne.mpr
      intro hZero
      rw [hZero] at hAnd
      cases band <;> exact absurd hAnd (by decide)

theorem place_injective : Function.Injective Band.place := by
  intro first second h
  cases first <;> cases second <;> first | rfl | cases h

/-- A bit of the mask of a list is one of the bits of its bands. -/
theorem bit_ofList (place : Nat) (bands : List Band) :
    (ofList bands).bit place = bands.any fun band => band.mask.bit place := by
  -- the bits that are there already stay
  have hFold : ∀ start : Bands,
      (bands.foldl (fun mask band => mask.union band.mask) start).bit place =
        (start.bit place || bands.any fun band => band.mask.bit place) := by
    induction bands with
    | nil => simp
    | cons band rest ih =>
        intro start
        rw [List.foldl_cons, ih, bit_union, List.any_cons, Bool.or_assoc]
  rw [ofList, hFold, bit_empty, Bool.false_or]

/-- A band is in the set of a list exactly if it is in the list. -/
theorem has_ofList (band : Band) (bands : List Band) :
    (ofList bands).has band = decide (band ∈ bands) := by
  rw [has_eq_bit, bit_ofList, Bool.eq_iff_iff, List.any_eq_true, decide_eq_true_iff]
  constructor
  · rintro ⟨other, hMem, hBit⟩
    rw [bit_mask, decide_eq_true_iff] at hBit
    exact place_injective hBit ▸ hMem
  · exact fun hMem => ⟨band, hMem, by simp⟩

/-- Lists with the same bands have the same set. -/
theorem ofList_congr {first second : List Band} (h : ∀ band, band ∈ first ↔ band ∈ second) :
    ofList first = ofList second := by
  apply ext_bit
  intro place
  rw [bit_ofList, bit_ofList, Bool.eq_iff_iff, List.any_eq_true, List.any_eq_true]
  exact exists_congr fun band => and_congr_left' (h band)

end Bands

end SoftAp
