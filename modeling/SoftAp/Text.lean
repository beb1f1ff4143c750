/-!
# Texts

Texts are lists of characters here.  They are trimmed, cut into lines or at separators, and read as
integer literals; bytes are written as hexadecimal digits.
-/

namespace SoftAp.Text

/-! ## White space

The characters with the Unicode property `White_Space`.  The zero-width space, the byte order mark
and the separators `U+001C` to `U+001F` do not have the property. -/

/-- Whether a character has the Unicode property `White_Space`. -/
def isBlank (c : Char) : Bool :=
  let n := c.toNat
  (0x09 ≤ n && n ≤ 0x0D) || n == 0x20 || n == 0x85 || n == 0xA0 || n == 0x1680 ||
    (0x2000 ≤ n && n ≤ 0x200A) || n == 0x2028 || n == 0x2029 || n == 0x202F ||
    n == 0x205F || n == 0x3000

/-- The text without the white space at its end. -/
def trimEnd : List Char → List Char
  | [] => []
  | c :: rest =>
      match trimEnd rest with
      | [] => if isBlank c then [] else [c]
      | kept => c :: kept

/-- The text without the white space at its two ends. -/
def trim (text : List Char) : List Char :=
  trimEnd (text.dropWhile isBlank)

/-! ## Lines and separators

A text is cut into lines at the line feeds, and at the first occurrence of a separator.  A carriage
return in front of a line feed belongs to the end of the line; nothing follows the last line feed.
-/

/-- The lines of a text, without their ends. -/
def lines : List Char → List (List Char)
  | [] => []
  | '\n' :: rest => [] :: lines rest
  | '\r' :: '\n' :: rest => [] :: lines rest
  | c :: rest =>
      match lines rest with
      | [] => [[c]]
      | line :: more => (c :: line) :: more

/-- The parts before and after the first occurrence of a separator. -/
def splitFirst? (separator : Char) : List Char → Option (List Char × List Char)
  | [] => none
  | c :: rest =>
      if c = separator then some ([], rest)
      else (splitFirst? separator rest).map fun parts => (c :: parts.1, parts.2)

/-- The pieces between the occurrences of a separator; the empty text is one empty piece. -/
def splitAll (separator : Char) : List Char → List (List Char)
  | [] => [[]]
  | c :: rest =>
      if c = separator then [] :: splitAll separator rest
      else
        match splitAll separator rest with
        | [] => [[c]]
        | piece :: more => (c :: piece) :: more

theorem splitFirst?_eq_none_iff {separator : Char} {text : List Char} :
    splitFirst? separator text = none ↔ separator ∉ text := by
  induction text with
  | nil => simp [splitFirst?]
  | cons c rest ih =>
      by_cases h : c = separator
      · simp [splitFirst?, h]
      · simp [splitFirst?, h, ih, Ne.symm h]

theorem splitFirst?_append {separator : Char} {before : List Char} (after : List Char)
    (h : separator ∉ before) :
    splitFirst? separator (before ++ separator :: after) = some (before, after) := by
  induction before with
  | nil => simp [splitFirst?]
  | cons c rest ih =>
      simp only [List.mem_cons, not_or] at h
      simp [splitFirst?, Ne.symm h.1, ih h.2]

theorem splitAll_ne_nil (separator : Char) (text : List Char) : splitAll separator text ≠ [] := by
  induction text with
  | nil => simp [splitAll]
  | cons c rest ih =>
      by_cases h : c = separator
      · simp [splitAll, h]
      · simp only [splitAll, h, if_false]
        split <;> simp

theorem splitAll_of_not_mem {separator : Char} {text : List Char} (h : separator ∉ text) :
    splitAll separator text = [text] := by
  induction text with
  | nil => rfl
  | cons c rest ih =>
      simp only [List.mem_cons, not_or] at h
      simp [splitAll, Ne.symm h.1, ih h.2]

theorem splitAll_append {separator : Char} {piece : List Char} (rest : List Char)
    (h : separator ∉ piece) :
    splitAll separator (piece ++ separator :: rest) = piece :: splitAll separator rest := by
  induction piece with
  | nil => simp [splitAll]
  | cons c more ih =>
      simp only [List.mem_cons, not_or] at h
      simp [splitAll, Ne.symm h.1, ih h.2]

/-! ## Integer literals

An integer literal is an optional sign and at least one decimal digit.  A plus sign is always
allowed, a minus sign only for a range with negative numbers, and only the ASCII digits count.  The
digits are read from the left, and the first one that makes the literal ill-formed or takes its
value out of the range decides the error. -/

/-- Why a text is not an integer of the wanted range. -/
inductive IntegerError
  | empty
  | invalidDigit
  | tooLarge
  | tooSmall
  deriving DecidableEq, Repr

/-- The wording of an integer error. -/
def IntegerError.message : IntegerError → String
  | .empty => "cannot parse integer from empty string"
  | .invalidDigit => "invalid digit found in string"
  | .tooLarge => "number too large to fit in target type"
  | .tooSmall => "number too small to fit in target type"

/-- The value of an ASCII digit. -/
def digit? (c : Char) : Option Nat :=
  if '0' ≤ c ∧ c ≤ '9' then some (c.toNat - '0'.toNat) else none

/-- Read digits after a number `value` that has already been read, as long as the result stays
within `limit`; `overflow` is the error beyond it. -/
def readDigits (limit : Nat) (overflow : IntegerError) : Nat → List Char → Except IntegerError Nat
  | value, [] => .ok value
  | value, c :: rest =>
      match digit? c with
      | none => .error .invalidDigit
      | some d =>
          if value * 10 + d ≤ limit then readDigits limit overflow (value * 10 + d) rest
          else .error overflow

/-- Read an integer literal between `low` and `high`. -/
def readInteger (low high : Int) : List Char → Except IntegerError Int
  | [] => .error .empty
  | ['+'] => .error .invalidDigit
  | ['-'] => .error .invalidDigit
  | '+' :: digits => (readDigits high.toNat .tooLarge 0 digits).map fun n => (n : Int)
  | '-' :: digits =>
      if low < 0 then (readDigits (-low).toNat .tooSmall 0 digits).map fun n => -(n : Int)
      else .error .invalidDigit
  | digits => (readDigits high.toNat .tooLarge 0 digits).map fun n => (n : Int)

/-- Read a literal of a signed 32-bit integer. -/
def readInt32 (text : List Char) : Except IntegerError Int32 :=
  (readInteger Int32.minValue.toInt Int32.maxValue.toInt text).map Int32.ofInt

/-- Read a literal of a signed 64-bit integer. -/
def readInt64 (text : List Char) : Except IntegerError Int64 :=
  (readInteger Int64.minValue.toInt Int64.maxValue.toInt text).map Int64.ofInt

/-- Read a literal of an unsigned byte. -/
def readByte (text : List Char) : Except IntegerError UInt8 :=
  (readInteger 0 255 text).map fun n => UInt8.ofNat n.toNat

/-- The decimal text of a signed 32-bit integer. -/
def decimal (n : Int32) : String :=
  toString n.toInt

/-! ## Bytes

Bytes are written as two lower-case hexadecimal digits each. -/

/-- The two hexadecimal digits of a byte. -/
def hexByte (b : UInt8) : List Char :=
  [Nat.digitChar (b.toNat / 16), Nat.digitChar (b.toNat % 16)]

/-- The hexadecimal text of a sequence of bytes. -/
def hex (bytes : List UInt8) : String :=
  String.ofList (bytes.flatMap hexByte)

/-- The value of a hexadecimal digit. -/
def hexDigit? (c : Char) : Option Nat :=
  if '0' ≤ c ∧ c ≤ '9' then some (c.toNat - '0'.toNat)
  else if 'a' ≤ c ∧ c ≤ 'f' then some (c.toNat - 'a'.toNat + 10)
  else if 'A' ≤ c ∧ c ≤ 'F' then some (c.toNat - 'A'.toNat + 10)
  else none

/-- The byte with two hexadecimal digits. -/
def byteOfHex? : List Char → Option UInt8
  | [high, low] => do return UInt8.ofNat (16 * (← hexDigit? high) + (← hexDigit? low))
  | _ => none

/-- The hexadecimal text of a number, with no leading zeros and the mark `0x` in front. -/
def hexNumber (n : Nat) : String :=
  "0x" ++ String.ofList (Nat.toDigits 16 n)

/-- The bytes of a text in UTF-8. -/
def utf8Bytes (text : String) : List UInt8 :=
  text.toList.flatMap String.utf8EncodeChar

end SoftAp.Text
