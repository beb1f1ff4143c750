import SoftAp.Proofs.IntegerLiteral
import SoftAp.Text

/-!
# The decimal texts of integers

An integer is written as its decimal digits, with a minus sign in front of them if it is negative.
This text is a literal of it, so it is read back and no two integers have the same.
-/

namespace SoftAp.Text

theorem isDigit_of_mem_toDigits {n : Nat} {c : Char} (h : c ∈ Nat.toDigits 10 n) : IsDigit c := by
  have hDigit := Nat.isDigit_of_mem_toDigits (by omega) (by omega) h
  unfold Char.isDigit at hDigit
  rw [Bool.and_eq_true, decide_eq_true_eq, decide_eq_true_eq] at hDigit
  exact hDigit

theorem not_isBlank_of_isDigit {c : Char} (h : IsDigit c) : isBlank c = false := by
  obtain ⟨hLow, hHigh⟩ := h
  have hLow' : 48 ≤ c.toNat := hLow
  have hHigh' : c.toNat ≤ 57 := hHigh
  unfold isBlank
  simp only [Bool.or_eq_false_iff, Bool.and_eq_false_iff, decide_eq_false_iff_not,
    beq_eq_false_iff_ne]
  omega

theorem digits_toDigits (n : Nat) : Digits (Nat.toDigits 10 n) :=
  ⟨Nat.toDigits_ne_nil, fun _ h => isDigit_of_mem_toDigits h⟩

/-- The digits of a number stand for it. -/
theorem numberAfter_toDigits (n : Nat) : numberAfter 0 (Nat.toDigits 10 n) = n := by
  have hFold : ∀ (digits : List Char) (value : Nat),
      numberAfter value digits = Nat.ofDigitChars 10 digits value := by
    intro digits value
    rw [Nat.ofDigitChars_eq_foldl]
    unfold numberAfter
    simp only [Nat.mul_comm]
  rw [hFold]
  exact Nat.ofDigitChars_ten_toDigits

/-- Different numbers have different digits. -/
theorem toString_inj {m n : Nat} : toString m = toString n ↔ m = n := by
  constructor
  · intro hSame
    have hDigits : Nat.toDigits 10 m = Nat.toDigits 10 n := by
      simpa only [Nat.toString_eq_repr, Nat.toList_repr] using congrArg String.toList hSame
    rw [← numberAfter_toDigits m, hDigits, numberAfter_toDigits]
  · rintro rfl
    rfl

/-- The text of an integer: the digits of its absolute value, behind a minus sign if need be. -/
theorem toList_decimal (n : Int32) :
    (decimal n).toList =
      if n.toInt < 0 then '-' :: Nat.toDigits 10 n.toInt.natAbs
      else Nat.toDigits 10 n.toInt.natAbs := by
  unfold decimal
  cases hInt : n.toInt with
  | ofNat m =>
      have hNot : ¬Int.ofNat m < 0 := Int.not_lt.mpr (Int.natCast_nonneg m)
      rw [if_neg hNot]
      show (toString m).toList = _
      rw [Nat.toString_eq_repr, Nat.toList_repr]
      rfl
  | negSucc m =>
      rw [if_pos (Int.negSucc_lt_zero m)]
      show ("-" ++ toString (m + 1)).toList = _
      rw [String.toList_append, Nat.toString_eq_repr, Nat.toList_repr]
      rfl

variable {n m : Int32}

/-- The text of an integer is a literal of it. -/
theorem literal_decimal (n : Int32) : Literal True (decimal n).toList n.toInt := by
  have hDigits := digits_toDigits n.toInt.natAbs
  have hNumber := numberAfter_toDigits n.toInt.natAbs
  rw [toList_decimal]
  split
  · next hNegative =>
    rw [literal_minus_iff, hNumber]
    exact ⟨trivial, hDigits, by omega⟩
  · next hNot =>
    have hLiteral : Literal True _ _ := .plain hDigits
    rwa [hNumber, Int.natAbs_of_nonneg (Int.not_lt.mp hNot)] at hLiteral

theorem readInt32_decimal (n : Int32) : readInt32 (decimal n).toList = .ok n :=
  readInt32_eq_ok_iff.mpr (literal_decimal n)

/-- Different integers have different texts. -/
theorem decimal_inj : decimal n = decimal m ↔ n = m := by
  constructor
  · intro hSame
    have hRead := readInt32_decimal n
    rw [hSame, readInt32_decimal] at hRead
    exact (Except.ok.inj hRead).symm
  · rintro rfl
    rfl

theorem toList_decimal_ne_nil (n : Int32) : (decimal n).toList ≠ [] := by
  rw [toList_decimal]
  split
  · exact List.cons_ne_nil _ _
  · exact Nat.toDigits_ne_nil

/-- Only the first character of the text can be no digit. -/
theorem isDigit_of_mem_tail_decimal {c : Char} (h : c ∈ (decimal n).toList.tail) : IsDigit c := by
  rw [toList_decimal] at h
  split at h
  · exact isDigit_of_mem_toDigits h
  · exact isDigit_of_mem_toDigits (List.mem_of_mem_tail h)

theorem isDigit_or_minus_of_mem_decimal {c : Char} (h : c ∈ (decimal n).toList) :
    IsDigit c ∨ c = '-' := by
  rw [toList_decimal] at h
  split at h
  · rcases List.mem_cons.mp h with rfl | h
    · exact .inr rfl
    · exact .inl (isDigit_of_mem_toDigits h)
  · exact .inl (isDigit_of_mem_toDigits h)

/-- There is no minus sign in the text of an integer that is not negative. -/
theorem not_mem_decimal_of_nonneg (h : 0 ≤ n.toInt) : '-' ∉ (decimal n).toList := by
  rw [toList_decimal, if_neg (Int.not_lt.mpr h)]
  intro hMem
  exact absurd (isDigit_of_mem_toDigits hMem) (by decide)

end SoftAp.Text
