import SoftAp.Calendar

/-!
# Time stamps

A log line says which program wrote it, how serious it is, when and where it was written, and what
has happened.  Its time stamp tells the month, day, hour, minute, second and milliseconds in UTC.  A
number of nanoseconds of a whole second or more stands for a leap second, which only the last second
of a minute can have.
-/

namespace SoftAp

/-- A moment, counted from the beginning of 1970. -/
structure Timestamp where
  seconds : Int
  nanoseconds : Nat
  deriving DecidableEq, Repr

namespace Timestamp

/-- The text of a number with zeros in front up to a width. -/
def padded (width : Nat) (n : Int) : String :=
  let digits := toString n.toNat
  String.ofList (List.replicate (width - digits.length) '0') ++ digits

/-- Whether the calendar has a moment. -/
def isValid (stamp : Timestamp) : Bool :=
  -8334601228800 ≤ stamp.seconds && stamp.seconds ≤ 8210266876799 &&
    (stamp.nanoseconds < 1000000000 ||
      stamp.nanoseconds < 2000000000 && stamp.seconds % 60 = 59)

/-- Whether a moment lies in a leap second. -/
def isLeapSecond (stamp : Timestamp) : Bool :=
  1000000000 ≤ stamp.nanoseconds

/-- The second of the minute, 60 in a leap second. -/
def secondOfMinute (stamp : Timestamp) : Int :=
  stamp.seconds % 60 + if stamp.isLeapSecond then 1 else 0

/-- The whole milliseconds of the second. -/
def millisecond (stamp : Timestamp) : Nat :=
  stamp.nanoseconds % 1000000000 / 1000000

/-- The text of a moment in a format.  Of the fields, which begin with `%`, only those that log
lines show are known. -/
def inFormat (stamp : Timestamp) : List Char → String
  | '%' :: 'm' :: rest =>
      padded 2 (Date.ofDays (stamp.seconds / 86400)).month ++ stamp.inFormat rest
  | '%' :: 'd' :: rest =>
      padded 2 (Date.ofDays (stamp.seconds / 86400)).day ++ stamp.inFormat rest
  | '%' :: 'H' :: rest => padded 2 (stamp.seconds % 86400 / 3600) ++ stamp.inFormat rest
  | '%' :: 'M' :: rest => padded 2 (stamp.seconds % 86400 % 3600 / 60) ++ stamp.inFormat rest
  | '%' :: 'S' :: rest => padded 2 stamp.secondOfMinute ++ stamp.inFormat rest
  | '%' :: '.' :: '3' :: 'f' :: rest =>
      "." ++ (padded 3 stamp.millisecond ++ stamp.inFormat rest)
  | c :: rest => String.singleton c ++ stamp.inFormat rest
  | [] => ""

end Timestamp

/-! ## Clocks -/

/-- A calendar, which has some moments, and a way to write them. -/
structure Clock where
  Moment : Type
  /-- The moment of a time stamp, if the calendar has it. -/
  moment? : Timestamp → Option Moment
  /-- The text of a moment in a format. -/
  format : String → Moment → String

namespace Clock

/-- The month, day, hour, minute, second and milliseconds, as log lines show them. -/
def logFormat : String := "%m-%d %H:%M:%S%.3f"

/-- The text of a time stamp in log lines. -/
def logText (clock : Clock) (stamp : Timestamp) : String :=
  match clock.moment? stamp with
  | some moment => clock.format logFormat moment
  | none => "INVALID-TIMESTAMP"

/-- The proleptic Gregorian calendar in UTC, from the year -262143 to the year 262142. -/
def utc : Clock where
  Moment := { stamp : Timestamp // stamp.isValid = true }
  moment? stamp := if h : stamp.isValid = true then some ⟨stamp, h⟩ else none
  format text moment := moment.val.inFormat text.toList

end Clock

/-- The text of a time stamp in log lines, in UTC. -/
def Timestamp.logText (stamp : Timestamp) : String :=
  Clock.utc.logText stamp

/-! ## Log lines -/

/-- How serious a log line is, or the least serious one that is written. -/
inductive LogLevel
  | error
  | warn
  | info
  | debug
  | trace
  deriving DecidableEq, Repr

/-- The letter of a level. -/
def LogLevel.letter : LogLevel → String
  | .error => "E"
  | .warn => "W"
  | .info => "I"
  | .debug => "D"
  | .trace => "T"

/-- A log line. -/
structure LogLine where
  program : String
  level : LogLevel
  time : Timestamp
  /-- The file and the line of the text that writes it. -/
  file : String
  line : Nat
  message : String
  deriving DecidableEq, Repr

/-- The text of a log line, without its end. -/
def LogLine.text (entry : LogLine) : String :=
  entry.program ++ " " ++ entry.level.letter ++ " " ++ entry.time.logText ++ " " ++
    entry.file ++ ":" ++ toString entry.line ++ " - " ++ entry.message

end SoftAp
