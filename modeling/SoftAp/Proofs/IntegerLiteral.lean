import Mathlib.Tactic.Common
import SoftAp.Text

/-!
# Which texts are integer literals

An integer is read from a text exactly if the text is a literal of it: one or more decimal digits
with a sign or none in front of them, where a minus sign needs a range with negative numbers.  The
digits are read one by one, and a number that leaves the range on the way does not come back.
-/

namespace SoftAp.Text

/-- A decimal digit. -/
def IsDigit (c : Char) : Prop :=
  '0' ≤ c ∧ c ≤ '9'

instance (c : Char) : Decidable (IsDigit c) :=
  inferInstanceAs (Decidable (_ ∧ _))

/-- What decimal digits stand for behind a number that stands in front of them. -/
def numberAfter (value : Nat) (digits : List Char) : Nat :=
  digits.foldl (fun number c => number * 10 + (c.toNat - '0'.toNat)) value

/-- One or more decimal digits. -/
def Digits (text : List Char) : Prop :=
  text ≠ [] ∧ ∀ c ∈ text, IsDigit c

/-- The literals of a number.  Only some ranges allow a minus sign. -/
inductive Literal (minusSign : Prop) : List Char → Int → Prop
  | plain {digits : List Char} (h : Digits digits) :
      Literal minusSign digits (numberAfter 0 digits)
  | plus {digits : List Char} (h : Digits digits) :
      Literal minusSign ('+' :: digits) (numberAfter 0 digits)
  | minus {digits : List Char} (h : Digits digits) (allowed : minusSign) :
      Literal minusSign ('-' :: digits) (-(numberAfter 0 digits))

theorem le_numberAfter (value : Nat) (digits : List Char) : value ≤ numberAfter value digits := by
  induction digits generalizing value with
  | nil => exact Nat.le_refl value
  | cons c rest ih =>
      calc
        value ≤ value * 10 + (c.toNat - '0'.toNat) := by omega
        _ ≤ numberAfter value (c :: rest) := ih _

theorem digit?_eq_some_iff {c : Char} {d : Nat} :
    digit? c = some d ↔ IsDigit c ∧ d = c.toNat - '0'.toNat := by
  unfold digit? IsDigit
  split
  · next hDigit => simp [hDigit, eq_comm]
  · next hNot => simp [hNot]

/-- Digits are read to the end exactly if nothing else is among them and the number that they stand
for stays within the limit. -/
theorem readDigits_eq_ok_iff {limit value n : Nat} {overflow : IntegerError} {digits : List Char}
    (within : value ≤ limit) :
    readDigits limit overflow value digits = .ok n ↔
      (∀ c ∈ digits, IsDigit c) ∧ numberAfter value digits = n ∧ n ≤ limit := by
  induction digits generalizing value with
  | nil =>
      rw [readDigits, Except.ok.injEq]
      constructor
      · rintro rfl
        exact ⟨by simp, rfl, within⟩
      · exact fun h => h.2.1
  | cons c rest ih =>
      rw [readDigits, List.forall_mem_cons]
      cases hDigit : digit? c with
      | none =>
          have hNot : ¬IsDigit c := by
            intro hIs
            rw [digit?_eq_some_iff.mpr ⟨hIs, rfl⟩] at hDigit
            cases hDigit
          simp [hNot]
      | some d =>
          obtain ⟨hIs, rfl⟩ := digit?_eq_some_iff.mp hDigit
          show (if value * 10 + (c.toNat - '0'.toNat) ≤ limit then _ else _) = _ ↔ _
          split
          · next hWithin =>
            rw [ih hWithin]
            simp only [hIs, true_and]
            rfl
          · next hBeyond =>
            -- the digits that follow only make the number larger
            have hLarger : value * 10 + (c.toNat - '0'.toNat) ≤ numberAfter value (c :: rest) :=
              le_numberAfter _ rest
            constructor
            · rintro ⟨⟩
            · rintro ⟨-, rfl, hLe⟩
              omega

section

variable {minusSign : Prop} {digits text : List Char} {n low high : Int}

theorem not_digits_of_sign {c : Char} (h : ¬IsDigit c) : ¬Digits (c :: digits) :=
  fun hDigits => h (hDigits.2 c List.mem_cons_self)

theorem literal_plus_iff :
    Literal minusSign ('+' :: digits) n ↔ Digits digits ∧ (numberAfter 0 digits : Int) = n := by
  constructor
  · intro h
    cases h with
    | plain h => exact absurd h (not_digits_of_sign (by decide))
    | plus h => exact ⟨h, rfl⟩
  · rintro ⟨h, rfl⟩
    exact .plus h

theorem literal_minus_iff :
    Literal minusSign ('-' :: digits) n ↔
      minusSign ∧ Digits digits ∧ -(numberAfter 0 digits : Int) = n := by
  constructor
  · intro h
    cases h with
    | plain h => exact absurd h (not_digits_of_sign (by decide))
    | minus h allowed => exact ⟨allowed, h, rfl⟩
  · rintro ⟨allowed, h, rfl⟩
    exact .minus h allowed

theorem literal_plain_iff (noPlus : ∀ digits, text ≠ '+' :: digits)
    (noMinus : ∀ digits, text ≠ '-' :: digits) :
    Literal minusSign text n ↔ Digits text ∧ (numberAfter 0 text : Int) = n := by
  constructor
  · intro h
    cases h with
    | plain h => exact ⟨h, rfl⟩
    | plus h => exact absurd rfl (noPlus _)
    | minus h => exact absurd rfl (noMinus _)
  · rintro ⟨h, rfl⟩
    exact .plain h

/-- Digits with a sign are read if the number that they stand for stays within the limit. -/
theorem readDigits_sign_eq_ok_iff {limit : Nat} {overflow : IntegerError} {sign : Int → Int}
    (nonempty : digits ≠ []) :
    (do return (← readDigits limit overflow 0 digits : Int)).map sign = .ok n ↔
      Digits digits ∧ sign (numberAfter 0 digits) = n ∧ numberAfter 0 digits ≤ limit := by
  have hRead := @readDigits_eq_ok_iff limit 0 (numberAfter 0 digits) overflow digits (Nat.zero_le _)
  constructor
  · intro h
    cases hDigits : readDigits limit overflow 0 digits with
    | error cause =>
        rw [hDigits] at h
        cases h
    | ok number =>
        rw [hDigits] at h
        cases h
        obtain ⟨hAll, rfl, hLimit⟩ := (readDigits_eq_ok_iff (Nat.zero_le _)).mp hDigits
        exact ⟨⟨nonempty, hAll⟩, rfl, hLimit⟩
  · rintro ⟨⟨-, hAll⟩, rfl, hLimit⟩
    rw [hRead.mpr ⟨hAll, rfl, hLimit⟩]
    rfl

/-- An integer is read from its literals, as long as it is in the range. -/
theorem readInteger_eq_ok_iff (hLow : low ≤ 0) (hHigh : 0 ≤ high) :
    readInteger low high text = .ok n ↔ Literal (low < 0) text n ∧ low ≤ n ∧ n ≤ high := by
  have hEmpty : ¬Digits [] := fun h => h.1 rfl
  unfold readInteger
  split
  · simp [literal_plain_iff, hEmpty]
  · simp [literal_plus_iff, hEmpty]
  · simp [literal_minus_iff, hEmpty]
  · next digits hNonempty =>
    rw [readDigits_sign_eq_ok_iff hNonempty, literal_plus_iff]
    constructor
    · rintro ⟨hDigits, rfl, hLimit⟩
      exact ⟨⟨hDigits, rfl⟩, by omega, by omega⟩
    · rintro ⟨⟨hDigits, rfl⟩, -, hLe⟩
      exact ⟨hDigits, rfl, by omega⟩
  · next digits hNonempty =>
    rw [literal_minus_iff]
    split
    · next hNegative =>
      rw [readDigits_sign_eq_ok_iff hNonempty]
      constructor
      · rintro ⟨hDigits, rfl, hLimit⟩
        exact ⟨⟨hNegative, hDigits, rfl⟩, by omega, by omega⟩
      · rintro ⟨⟨-, hDigits, rfl⟩, hLe, -⟩
        exact ⟨hDigits, rfl, by omega⟩
    · next hNegative => simp [hNegative]
  · next hNonempty _ _ hPlus hMinus =>
    rw [readDigits_sign_eq_ok_iff hNonempty, literal_plain_iff hPlus hMinus]
    constructor
    · rintro ⟨hDigits, rfl, hLimit⟩
      exact ⟨⟨hDigits, rfl⟩, by omega, by omega⟩
    · rintro ⟨⟨hDigits, rfl⟩, -, hLe⟩
      exact ⟨hDigits, rfl, by omega⟩

end

/-- The signed integers of 32 bits are read from their literals. -/
theorem readInt32_eq_ok_iff {text : List Char} {n : Int32} :
    readInt32 text = .ok n ↔ Literal True text n.toInt := by
  have hSign : (Int32.minValue.toInt < 0) = True := eq_true (by decide)
  have hRead : ∀ number : Int, readInteger Int32.minValue.toInt Int32.maxValue.toInt text =
      .ok number ↔ Literal True text number ∧ Int32.minValue.toInt ≤ number ∧
        number ≤ Int32.maxValue.toInt := by
    intro number
    rw [readInteger_eq_ok_iff (by decide) (by decide), hSign]
  unfold readInt32
  constructor
  · intro h
    cases hNumber : readInteger Int32.minValue.toInt Int32.maxValue.toInt text with
    | error cause =>
        rw [hNumber] at h
        cases h
    | ok number =>
        rw [hNumber] at h
        cases h
        obtain ⟨hLiteral, hLow, hHigh⟩ := (hRead number).mp hNumber
        rwa [Int32.toInt_ofInt_of_le hLow (Int.lt_of_le_of_lt hHigh (by decide))]
  · intro hLiteral
    rw [(hRead n.toInt).mpr ⟨hLiteral, n.minValue_le_toInt, n.toInt_le⟩]
    exact congrArg Except.ok n.ofInt_toInt

/-- Bytes are read from their literals, which have no minus sign. -/
theorem readByte_eq_ok_iff {text : List Char} {byte : UInt8} :
    readByte text = .ok byte ↔ Literal False text byte.toNat := by
  have hSign : ((0 : Int) < 0) = False := eq_false (by decide)
  have hRead : ∀ number : Int, readInteger 0 255 text = .ok number ↔
      Literal False text number ∧ 0 ≤ number ∧ number ≤ 255 := by
    intro number
    rw [readInteger_eq_ok_iff (by decide) (by decide), hSign]
  unfold readByte
  constructor
  · intro h
    cases hNumber : readInteger 0 255 text with
    | error cause =>
        rw [hNumber] at h
        cases h
    | ok number =>
        rw [hNumber] at h
        cases h
        obtain ⟨hLiteral, hLow, hHigh⟩ := (hRead number).mp hNumber
        have hSmall : number.toNat < UInt8.size := by
          show number.toNat < 256
          omega
        have hByte : ((UInt8.ofNat number.toNat).toNat : Int) = number := by
          rw [UInt8.toNat_ofNat_of_lt' hSmall]
          exact Int.toNat_of_nonneg hLow
        rwa [hByte]
  · intro hLiteral
    have hSmall : byte.toNat < 256 := byte.toNat_lt
    rw [(hRead byte.toNat).mpr ⟨hLiteral, by omega, by omega⟩]
    show Except.ok (UInt8.ofNat byte.toNat) = .ok byte
    rw [UInt8.ofNat_toNat]

/-- Nothing but digits and a plus sign is in a literal without a minus sign. -/
theorem Literal.digit_or_plus {text : List Char} {n : Int} (h : Literal False text n) :
    ∀ c ∈ text, IsDigit c ∨ c = '+' := by
  intro c hMem
  cases h with
  | plain h => exact .inl (h.2 c hMem)
  | plus h =>
      rcases List.mem_cons.mp hMem with rfl | hMem
      · exact .inr rfl
      · exact .inl (h.2 c hMem)
  | minus h allowed => exact allowed.elim

end SoftAp.Text
