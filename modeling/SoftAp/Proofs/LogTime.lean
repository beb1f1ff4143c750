import Mathlib.Algebra.Group.Nat.Defs
import SoftAp.Proofs.Calendar
import SoftAp.Timestamp

/-!
# The time of a log line

A moment has one date and one time of the day.  They are what its log line shows, each with as many
digits as the layout has places for it, and the second 60 is shown in a leap second alone.  This
follows from what is documented of the clock, and the clock that runs is as it is documented.
-/

namespace SoftAp

/-! ## Digits -/

/-- The decimal digits of a number at a fixed number of places, the lowest one last. -/
def digitsAt : (places : Nat) → (n : Nat) → List Char
  | 0, _ => []
  | places + 1, n => digitsAt places (n / 10) ++ [Nat.digitChar (n % 10)]

theorem digitsAt_zero (places : Nat) : digitsAt places 0 = List.replicate places '0' := by
  induction places with
  | zero => rfl
  | succ places ih =>
      rw [digitsAt, Nat.zero_div, ih, List.replicate_succ']
      rfl

@[simp] theorem length_digitsAt (places n : Nat) : (digitsAt places n).length = places := by
  induction places generalizing n with
  | zero => rfl
  | succ places ih => simp [digitsAt, ih]

/-- Zeros in front of the digits of a number fill the places up. -/
theorem replicate_append_toDigits {places n : Nat} (h : n < 10 ^ (places + 1)) :
    List.replicate (places + 1 - (Nat.toDigits 10 n).length) '0' ++ Nat.toDigits 10 n =
      digitsAt (places + 1) n := by
  induction places generalizing n with
  | zero =>
      have hDigit : n < 10 := h
      rw [Nat.toDigits_of_lt_base hDigit, digitsAt, Nat.mod_eq_of_lt hDigit]
      rfl
  | succ places ih =>
      rw [digitsAt]
      rcases Nat.lt_or_ge n 10 with hDigit | hMore
      · rw [Nat.toDigits_of_lt_base hDigit, Nat.div_eq_of_lt hDigit, digitsAt_zero,
          Nat.mod_eq_of_lt hDigit]
        rfl
      · have hRest : n / 10 < 10 ^ (places + 1) := by
          rw [Nat.pow_succ] at h
          exact Nat.div_lt_of_lt_mul (Nat.mul_comm 10 _ ▸ h)
        rw [Nat.toDigits_of_base_le (by decide) hMore, ← ih hRest, List.length_append,
          List.length_singleton, Nat.add_sub_add_right, List.append_assoc]

/-- A text begins with its first character. -/
theorem ofList_cons (c : Char) (rest : List Char) :
    String.ofList (c :: rest) = String.singleton c ++ String.ofList rest := by
  rw [String.singleton_eq_ofList, ← String.ofList_append]
  rfl

namespace Timestamp

theorem padded_eq {places : Nat} {n : Int} (h : n.toNat < 10 ^ (places + 1)) :
    padded (places + 1) n = String.ofList (digitsAt (places + 1) n.toNat) := by
  have hText : toString n.toNat = String.ofList (Nat.toDigits 10 n.toNat) := by
    rw [Nat.toString_eq_repr, ← Nat.toList_repr, String.ofList_toList]
  rw [← replicate_append_toDigits h, String.ofList_append, padded, hText, String.length_ofList]

end Timestamp

/-! ## The time of the day -/

/-- A date and a time of the day. -/
structure ClockTime where
  date : Date
  hour : Int
  minute : Int
  second : Int
  deriving DecidableEq, Repr

namespace ClockTime

/-- A date of the calendar, and a time of a day without leap seconds. -/
structure Valid (time : ClockTime) : Prop where
  date : time.date.Valid
  hour : 0 ≤ time.hour ∧ time.hour < 24
  minute : 0 ≤ time.minute ∧ time.minute < 60
  second : 0 ≤ time.second ∧ time.second < 60

/-- The seconds from the beginning of 1970. -/
def toSeconds (time : ClockTime) : Int :=
  86400 * time.date.toDays + 3600 * time.hour + 60 * time.minute + time.second

/-- The time a number of seconds after the beginning of 1970. -/
def ofSeconds (seconds : Int) : ClockTime :=
  { date := .ofDays (seconds / 86400)
    hour := seconds % 86400 / 3600
    minute := seconds % 86400 % 3600 / 60
    second := seconds % 60 }

theorem ofSeconds_spec (seconds : Int) :
    (ofSeconds seconds).Valid ∧ (ofSeconds seconds).toSeconds = seconds := by
  obtain ⟨hDate, hDays⟩ := Date.ofDays_spec (seconds / 86400)
  refine ⟨⟨hDate, ?_, ?_, ?_⟩, ?_⟩
  · show 0 ≤ seconds % 86400 / 3600 ∧ seconds % 86400 / 3600 < 24
    omega
  · show 0 ≤ seconds % 86400 % 3600 / 60 ∧ seconds % 86400 % 3600 / 60 < 60
    omega
  · show 0 ≤ seconds % 60 ∧ seconds % 60 < 60
    omega
  · show 86400 * (Date.ofDays (seconds / 86400)).toDays + 3600 * (seconds % 86400 / 3600) +
      60 * (seconds % 86400 % 3600 / 60) + seconds % 60 = seconds
    rw [hDays]
    omega

/-- A number of seconds is that of one time. -/
theorem toSeconds_inj {time other : ClockTime} (valid : time.Valid) (valid' : other.Valid) :
    time.toSeconds = other.toSeconds ↔ time = other := by
  constructor
  · intro hSeconds
    obtain ⟨hDate, hHour, hMinute, hSecond⟩ := valid
    obtain ⟨hDate', hHour', hMinute', hSecond'⟩ := valid'
    unfold toSeconds at hSeconds
    have hDays : time.date.toDays = other.date.toDays := by omega
    obtain ⟨date, hour, minute, second⟩ := time
    obtain ⟨date', hour', minute', second'⟩ := other
    obtain rfl : date = date' := (Date.toDays_inj hDate hDate').mp hDays
    obtain ⟨rfl, rfl, rfl⟩ : hour = hour' ∧ minute = minute' ∧ second = second' := by
      simp only at *
      omega
    rfl
  · rintro rfl
    rfl

/-- The layout of a time in log lines, `MO-DD HH:MI:SS.mmm`.  The second is given by itself, since
it is not that of the time in a leap second. -/
def layout (time : ClockTime) (second millisecond : Nat) : String :=
  String.ofList (digitsAt 2 time.date.month.toNat) ++ "-" ++
    String.ofList (digitsAt 2 time.date.day.toNat) ++ " " ++
    String.ofList (digitsAt 2 time.hour.toNat) ++ ":" ++
    String.ofList (digitsAt 2 time.minute.toNat) ++ ":" ++
    String.ofList (digitsAt 2 second) ++ "." ++ String.ofList (digitsAt 3 millisecond)

theorem length_layout (time : ClockTime) (second millisecond : Nat) :
    (time.layout second millisecond).length = 18 := by
  have hMinus : "-".length = 1 := rfl
  have hBlank : " ".length = 1 := rfl
  have hColon : ":".length = 1 := rfl
  have hPoint : ".".length = 1 := rfl
  simp only [layout, String.length_append, String.length_ofList, length_digitsAt, hMinus, hBlank,
    hColon, hPoint]

/-- The first and the last second of the years from -262143 to 262142. -/
theorem year_mem_iff {time : ClockTime} (h : time.Valid) :
    -262143 ≤ time.date.year ∧ time.date.year ≤ 262142 ↔
      -8334601228800 ≤ time.toSeconds ∧ time.toSeconds ≤ 8210266876799 := by
  obtain ⟨hDate, hHour, hMinute, hSecond⟩ := h
  -- 719162 days lie between the years 1 and 1970
  have hFirst : Date.daysBeforeYear (-262143) = -95746130 := by decide
  have hBeyond : Date.daysBeforeYear 262143 = 95745399 := by decide
  have hBegin := Date.le_year_iff hDate (-262143)
  have hEnd := Date.le_year_iff hDate 262143
  unfold toSeconds
  omega

end ClockTime

/-! ## Documented clocks -/

/-- The fields of a format, and how they are written.  The seconds count a leap second. -/
def ClockTime.fields (time : ClockTime) (nanosecond : Nat) : List (String × List Char) :=
  [("%m", digitsAt 2 time.date.month.toNat), ("%d", digitsAt 2 time.date.day.toNat),
    ("%H", digitsAt 2 time.hour.toNat), ("%M", digitsAt 2 time.minute.toNat),
    ("%S", digitsAt 2 (time.second.toNat + nanosecond / 10 ^ 9)),
    ("%.3f", '.' :: digitsAt 3 (nanosecond % 10 ^ 9 / 10 ^ 6))]

/-- What is documented of a clock whose moments have a date with a time of the day, and nanoseconds.
-/
structure Clock.Documented (clock : Clock) (time : clock.Moment → ClockTime)
    (nanosecond : clock.Moment → Nat) : Prop where
  /-- The calendar has the years from -262143 to 262142.  A second has less than a billion of
  nanoseconds, or less than two billions if it is the last one of a minute. -/
  isSome_moment?_iff : ∀ stamp, (clock.moment? stamp).isSome = true ↔
    (∃ other : ClockTime, other.Valid ∧ other.toSeconds = stamp.seconds ∧
      -262143 ≤ other.date.year ∧ other.date.year ≤ 262142) ∧
    (stamp.nanoseconds < 10 ^ 9 ∨ stamp.nanoseconds < 2 * 10 ^ 9 ∧ stamp.seconds % 60 = 59)
  /-- The time of a moment is that of its seconds in the proleptic Gregorian calendar. -/
  time_spec : ∀ stamp moment, clock.moment? stamp = some moment →
    (time moment).Valid ∧ (time moment).toSeconds = stamp.seconds
  nanosecond_eq : ∀ stamp moment, clock.moment? stamp = some moment →
    nanosecond moment = stamp.nanoseconds
  /-- A format is written from its beginning to its end. -/
  format_empty : ∀ moment, clock.format "" moment = ""
  /-- Other text stands for itself. -/
  format_text : ∀ text rest moment, '%' ∉ text.toList →
    clock.format (text ++ rest) moment = text ++ clock.format rest moment
  format_field : ∀ moment, ∀ field ∈ (time moment).fields (nanosecond moment), ∀ rest,
    clock.format (field.1 ++ rest) moment =
      String.ofList field.2 ++ clock.format rest moment

namespace Clock

variable {clock : Clock} {time : clock.Moment → ClockTime} {nanosecond : clock.Moment → Nat}

/-- The format of log lines, cut into its fields and the text between them. -/
theorem logFormat_eq : logFormat = "%m" ++ ("-" ++ ("%d" ++ (" " ++ ("%H" ++ (":" ++ ("%M" ++
    (":" ++ ("%S" ++ ("%.3f" ++ ""))))))))) := by
  decide +kernel

/-- A moment is written in the layout of log lines. -/
theorem Documented.format_logFormat (documented : clock.Documented time nanosecond)
    (moment : clock.Moment) :
    clock.format logFormat moment = (time moment).layout
      ((time moment).second.toNat + nanosecond moment / 10 ^ 9)
      (nanosecond moment % 10 ^ 9 / 10 ^ 6) := by
  have hField := documented.format_field moment
  -- the fields of the table, in its order
  simp only [ClockTime.fields, List.forall_mem_cons] at hField
  obtain ⟨hMonth, hDay, hHour, hMinute, hSecond, hMillisecond, -⟩ := hField
  have hMinus : '%' ∉ "-".toList := by decide
  have hBlank : '%' ∉ " ".toList := by decide
  have hColon : '%' ∉ ":".toList := by decide
  have hPoint : String.singleton '.' = "." := by decide
  rw [logFormat_eq, hMonth, documented.format_text _ _ _ hMinus, hDay,
    documented.format_text _ _ _ hBlank, hHour, documented.format_text _ _ _ hColon, hMinute,
    documented.format_text _ _ _ hColon, hSecond, hMillisecond, documented.format_empty,
    ofList_cons, hPoint]
  simp only [ClockTime.layout, String.append_assoc, String.append_empty]

end Clock

namespace Timestamp

/-- The seconds of a moment are beyond the calendar, or its nanoseconds are two seconds or more, or
they are a second or more outside the last second of a minute. -/
def Rejected (stamp : Timestamp) : Prop :=
  stamp.seconds < -8334601228800 ∨ 8210266876799 < stamp.seconds ∨
    2 * 10 ^ 9 ≤ stamp.nanoseconds ∨ 10 ^ 9 ≤ stamp.nanoseconds ∧ stamp.seconds % 60 ≠ 59

instance (stamp : Timestamp) : Decidable stamp.Rejected :=
  inferInstanceAs (Decidable (_ ∨ _))

/-- A moment is rejected if its second is not in the calendar or if its nanoseconds are too many. -/
theorem not_rejected_iff {stamp : Timestamp} : ¬stamp.Rejected ↔
    (∃ time : ClockTime, time.Valid ∧ time.toSeconds = stamp.seconds ∧
      -262143 ≤ time.date.year ∧ time.date.year ≤ 262142) ∧
    (stamp.nanoseconds < 10 ^ 9 ∨
      stamp.nanoseconds < 2 * 10 ^ 9 ∧ stamp.seconds % 60 = 59) := by
  have hSeconds : (∃ time : ClockTime, time.Valid ∧ time.toSeconds = stamp.seconds ∧
      -262143 ≤ time.date.year ∧ time.date.year ≤ 262142) ↔
      -8334601228800 ≤ stamp.seconds ∧ stamp.seconds ≤ 8210266876799 := by
    constructor
    · rintro ⟨time, hValid, hTime, hYear⟩
      exact hTime ▸ (ClockTime.year_mem_iff hValid).mp hYear
    · intro hBounds
      obtain ⟨hValid, hTime⟩ := ClockTime.ofSeconds_spec stamp.seconds
      exact ⟨_, hValid, hTime, (ClockTime.year_mem_iff hValid).mpr (hTime.symm ▸ hBounds)⟩
  rw [hSeconds]
  unfold Rejected
  omega

end Timestamp

/-! ## The clock that runs -/

namespace Timestamp

theorem isValid_iff {stamp : Timestamp} : stamp.isValid = true ↔ ¬stamp.Rejected := by
  unfold isValid Rejected
  simp only [Bool.and_eq_true, Bool.or_eq_true, decide_eq_true_eq]
  omega

theorem nanoseconds_lt {stamp : Timestamp} (h : stamp.isValid = true) :
    stamp.nanoseconds < 2 * 10 ^ 9 := by
  have hKept := isValid_iff.mp h
  unfold Rejected at hKept
  omega

/-! The parts of the text have as many digits as the layout has places. -/

theorem padded_two {n : Int} (h : n ≤ 60) :
    padded 2 n = String.ofList (digitsAt 2 n.toNat) :=
  padded_eq (by omega)

theorem padded_second {stamp : Timestamp} (h : stamp.nanoseconds < 2 * 10 ^ 9) :
    padded 2 stamp.secondOfMinute = String.ofList
      (digitsAt 2 ((stamp.seconds % 60).toNat + stamp.nanoseconds / 10 ^ 9)) := by
  have hSecond : stamp.secondOfMinute =
      ((stamp.seconds % 60).toNat + stamp.nanoseconds / 10 ^ 9 : Nat) := by
    unfold secondOfMinute isLeapSecond
    split
    · next hLeap =>
      have hReached := of_decide_eq_true hLeap
      omega
    · next hPlain =>
      have hBelow := of_decide_eq_false (Bool.not_eq_true _ ▸ hPlain)
      omega
  rw [hSecond, padded_two (by omega)]
  rfl

theorem padded_millisecond (stamp : Timestamp) :
    padded 3 stamp.millisecond =
      String.ofList (digitsAt 3 (stamp.nanoseconds % 10 ^ 9 / 10 ^ 6)) := by
  have hMillisecond : stamp.millisecond = stamp.nanoseconds % 10 ^ 9 / 10 ^ 6 := rfl
  rw [hMillisecond, padded_eq (by omega)]
  rfl

section

variable (stamp : Timestamp) (rest : List Char)

/-- Only `%` begins a field. -/
theorem inFormat_cons {c : Char} (h : c ≠ '%') :
    stamp.inFormat (c :: rest) = String.singleton c ++ stamp.inFormat rest := by
  rw [inFormat]
  -- the equation of other text asks that none of the fields begins here
  all_goals
    intro _ hField
    exact absurd hField h

theorem inFormat_append {text : List Char} (h : '%' ∉ text) :
    stamp.inFormat (text ++ rest) = String.ofList text ++ stamp.inFormat rest := by
  induction text with
  | nil => rw [String.ofList_nil, String.empty_append, List.nil_append]
  | cons c text ih =>
      have hPlain : c ≠ '%' := fun hSame => h (hSame ▸ List.mem_cons_self)
      rw [List.cons_append, inFormat_cons stamp _ hPlain, ih fun hMem => h (.tail c hMem),
        ofList_cons, String.append_assoc]

/-- The fields are those of the time of a moment. -/
theorem inFormat_field (inCalendar : stamp.nanoseconds < 2 * 10 ^ 9) {field : String × List Char}
    (h : field ∈ (ClockTime.ofSeconds stamp.seconds).fields stamp.nanoseconds) :
    stamp.inFormat (field.1.toList ++ rest) = String.ofList field.2 ++ stamp.inFormat rest := by
  obtain ⟨⟨⟨one_le, le_twelve, hDay, hDays⟩, hHour, hMinute, hSecond⟩, -⟩ :=
    ClockTime.ofSeconds_spec stamp.seconds
  have hLong := Date.daysInMonth_le (ClockTime.ofSeconds stamp.seconds).date.year
    (ClockTime.ofSeconds stamp.seconds).date.month
  have hMonth : "%m".toList = ['%', 'm'] := rfl
  have hDate : "%d".toList = ['%', 'd'] := rfl
  have hHours : "%H".toList = ['%', 'H'] := rfl
  have hMinutes : "%M".toList = ['%', 'M'] := rfl
  have hSeconds : "%S".toList = ['%', 'S'] := rfl
  have hMilliseconds : "%.3f".toList = ['%', '.', '3', 'f'] := rfl
  simp only [ClockTime.fields, List.mem_cons, List.not_mem_nil, or_false] at h
  obtain rfl | rfl | rfl | rfl | rfl | rfl := h
  · rw [hMonth, ← padded_two (by omega)]
    rfl
  · rw [hDate, ← padded_two (by omega)]
    rfl
  · rw [hHours, ← padded_two (by omega)]
    rfl
  · rw [hMinutes, ← padded_two (by omega)]
    rfl
  · rw [hSeconds, show (ClockTime.ofSeconds stamp.seconds).second = stamp.seconds % 60 from rfl,
      ← padded_second inCalendar]
    rfl
  · rw [hMilliseconds, ofList_cons, String.append_assoc, ← padded_millisecond]
    rfl

end

end Timestamp

namespace Clock

theorem moment?_utc (stamp : Timestamp) : utc.moment? stamp =
    if h : stamp.isValid = true then some ⟨stamp, h⟩ else none :=
  rfl

theorem val_of_utc {stamp : Timestamp} {moment : utc.Moment} (h : utc.moment? stamp = some moment) :
    moment.val = stamp := by
  rw [moment?_utc] at h
  split at h
  · exact (congrArg Subtype.val (Option.some.inj h)).symm
  · cases h

/-- The clock that runs is as it is documented. -/
theorem utc_documented :
    utc.Documented (fun moment => ClockTime.ofSeconds moment.val.seconds)
      (fun moment => moment.val.nanoseconds) where
  isSome_moment?_iff stamp := by
    rw [← Timestamp.not_rejected_iff, ← Timestamp.isValid_iff, moment?_utc]
    split
    · exact iff_of_true rfl ‹_›
    · exact iff_of_false Bool.false_ne_true ‹_›
  time_spec stamp moment h := by
    rw [← val_of_utc h]
    exact ClockTime.ofSeconds_spec moment.val.seconds
  nanosecond_eq stamp moment h := by rw [val_of_utc h]
  format_empty _ := rfl
  format_text text rest moment h := by
    show moment.val.inFormat (text ++ rest).toList = text ++ moment.val.inFormat rest.toList
    rw [String.toList_append, Timestamp.inFormat_append _ _ h, String.ofList_toList]
  format_field moment field h rest := by
    show moment.val.inFormat (field.1 ++ rest).toList = _ ++ moment.val.inFormat rest.toList
    have hBelow := Timestamp.nanoseconds_lt moment.property
    rw [String.toList_append, Timestamp.inFormat_field _ _ hBelow h]

end Clock

/-! ## The text of a moment -/

namespace Clock

variable {clock : Clock} {time : clock.Moment → ClockTime} {nanosecond : clock.Moment → Nat}

/-- The text of a moment that the calendar has. -/
theorem Documented.logText_eq_layout (documented : clock.Documented time nanosecond)
    {stamp : Timestamp} {moment : clock.Moment} (h : clock.moment? stamp = some moment) :
    clock.logText stamp = (time moment).layout
      ((time moment).second.toNat + stamp.nanoseconds / 10 ^ 9)
      (stamp.nanoseconds % 10 ^ 9 / 10 ^ 6) := by
  rw [logText, h, ← documented.nanosecond_eq stamp moment h]
  exact documented.format_logFormat moment

/-- A leap second follows the last second of a minute. -/
theorem Documented.second_of_leap (documented : clock.Documented time nanosecond)
    {stamp : Timestamp} {moment : clock.Moment} (h : clock.moment? stamp = some moment)
    (last : stamp.seconds % 60 = 59) : (time moment).second = 59 := by
  obtain ⟨⟨-, -, -, hInMinute⟩, hSeconds⟩ := documented.time_spec stamp moment h
  unfold ClockTime.toSeconds at hSeconds
  omega

theorem Documented.isSome_moment?_iff_not_rejected (documented : clock.Documented time nanosecond)
    (stamp : Timestamp) : (clock.moment? stamp).isSome = true ↔ ¬stamp.Rejected :=
  (documented.isSome_moment?_iff stamp).trans Timestamp.not_rejected_iff.symm

/-- On a clock as it is documented, a moment is rejected exactly if it is out of range.  Every other
one has one time of the calendar, whose date, hour and minute its text shows in the layout.  The
second and the milliseconds are those of the time, unless the moment is in a leap second: then the
second is 60, and the time is the last second of its minute. -/
theorem logText_shows_time (documented : clock.Documented time nanosecond) (stamp : Timestamp) :
    (clock.logText stamp = "INVALID-TIMESTAMP" ↔ stamp.Rejected) ∧
    (¬stamp.Rejected → ∃ time : ClockTime,
      time.Valid ∧ time.toSeconds = stamp.seconds ∧
      (∀ other : ClockTime, other.Valid → other.toSeconds = stamp.seconds → other = time) ∧
      (stamp.nanoseconds < 10 ^ 9 →
        clock.logText stamp = time.layout time.second.toNat (stamp.nanoseconds / 10 ^ 6)) ∧
      (10 ^ 9 ≤ stamp.nanoseconds → time.second = 59 ∧
        clock.logText stamp = time.layout 60 ((stamp.nanoseconds - 10 ^ 9) / 10 ^ 6))) := by
  have hKeeps := documented.isSome_moment?_iff_not_rejected stamp
  cases hMoment : clock.moment? stamp with
  | none =>
      have hText : clock.logText stamp = "INVALID-TIMESTAMP" := by
        rw [logText, hMoment]
      have hRejected : stamp.Rejected := by
        by_contra hKept
        have hSome := hKeeps.mpr hKept
        rw [hMoment] at hSome
        cases hSome
      exact ⟨⟨fun _ => hRejected, fun _ => hText⟩, fun hKept => absurd hRejected hKept⟩
  | some moment =>
      have hKept : ¬stamp.Rejected := hKeeps.mp (by rw [hMoment]; rfl)
      obtain ⟨hValid, hSeconds⟩ := documented.time_spec stamp moment hMoment
      have hText := documented.logText_eq_layout hMoment
      refine ⟨⟨fun hInvalid => ?_, fun h => absurd h hKept⟩, fun _ =>
        ⟨time moment, hValid, hSeconds, ?_, ?_, ?_⟩⟩
      · -- the layout is longer
        have hLength := congrArg String.length (hText.symm.trans hInvalid)
        rw [ClockTime.length_layout] at hLength
        exact absurd hLength (by decide)
      · intro other hOther hSame
        exact (ClockTime.toSeconds_inj hOther hValid).mp (hSame.trans hSeconds.symm)
      · intro hPlain
        rw [hText, Nat.div_eq_of_lt hPlain, Nat.mod_eq_of_lt hPlain, Nat.add_zero]
      · intro hLeap
        -- a moment in a leap second is kept only in the last second of a minute
        obtain ⟨-, hNanoseconds⟩ := Timestamp.not_rejected_iff.mp hKept
        obtain ⟨hBound, hLast⟩ := hNanoseconds.resolve_left (Nat.not_lt.mpr hLeap)
        have hSecond := documented.second_of_leap hMoment hLast
        have hOne : stamp.nanoseconds / 10 ^ 9 = 1 := by omega
        have hRest : stamp.nanoseconds % 10 ^ 9 = stamp.nanoseconds - 10 ^ 9 := by omega
        refine ⟨hSecond, ?_⟩
        rw [hText, hSecond, hOne, hRest]
        rfl

/-- Half a second into a leap second at the end of 1969. -/
theorem logText_shows_time_of_leap_second :
    let stamp : Timestamp := ⟨-1, 1500000000⟩
    ¬stamp.Rejected ∧ stamp.logText = "12-31 23:59:60.500" ∧
      ∃ time : ClockTime, time.Valid ∧ time.toSeconds = -1 ∧ time.second = 59 ∧
        stamp.logText = time.layout 60 500 := by
  intro stamp
  have hKept : ¬stamp.Rejected := by decide
  have hMillisecond : (stamp.nanoseconds - 10 ^ 9) / 10 ^ 6 = 500 := by decide
  obtain ⟨time, hValid, hSeconds, -, -, hLeap⟩ := (logText_shows_time utc_documented stamp).2 hKept
  obtain ⟨hSecond, hText⟩ := hLeap (by decide)
  rw [hMillisecond] at hText
  exact ⟨hKept, by decide +kernel, time, hValid, hSeconds, hSecond, hText⟩

end Clock

end SoftAp
