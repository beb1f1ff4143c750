import SoftAp.Request
import SoftAp.Text

/-!
# Arguments

The arguments of the program, and the request that they stand for.  A range of frequencies is
written as two frequencies with a hyphen between them, or as one frequency.  The first hyphen
separates, so neither end can be negative.  White space around a number is ignored.
-/

namespace SoftAp.CommandLine

/-! ## Frequency ranges -/

/-- Why a text is not a range. -/
inductive RangeError
  | notInteger (text : String) (cause : Text.IntegerError)
  | reversed (low high : Int32)
  deriving DecidableEq, Repr

/-- The wording of a range error. -/
def RangeError.message : RangeError → String
  | .notInteger text cause => text ++ ": " ++ cause.message
  | .reversed low high =>
      "range start " ++ Text.decimal low ++ " is above its end " ++ Text.decimal high

/-- Read one end of a range. -/
def readFrequency (text : List Char) : Except RangeError Int32 :=
  match Text.readInt32 (Text.trim text) with
  | .ok frequency => .ok frequency
  | .error cause => .error (.notInteger (String.ofList text) cause)

/-- Read a range of frequencies. -/
def readRange (text : String) : Except RangeError FrequencyRange :=
  match Text.splitFirst? '-' text.toList with
  | none => (readFrequency text.toList).map fun frequency => ⟨frequency, frequency⟩
  | some (before, after) => do
      let low ← readFrequency before
      let high ← readFrequency after
      if low ≤ high then return ⟨low, high⟩ else throw (.reversed low high)

/-! ## All arguments -/

/-- The arguments of the program. -/
structure Arguments where
  interface : String
  bands : List Band
  channel : Int32 := 0
  n : Bool := false
  ac : Bool := false
  ax : Bool := false
  be : Bool := false
  ssid : String := ""
  security : Security := .unprotected
  passphrase : String := ""
  metered : Bool := false
  hidden : Bool := false
  ranges : List FrequencyRange := []
  bandwidth : Bandwidth := .auto
  bridge : String := ""
  /-- The file with the options of the service. -/
  options : Option String := none
  /-- The file that takes the configuration, instead of the standard output. -/
  output : Option String := none
  deriving DecidableEq, Repr

namespace Arguments

/-- The channel specification; a range of frequencies asks for automatic selection. -/
def channelSpec (arguments : Arguments) : ChannelSpec :=
  { bands := .ofList arguments.bands
    channel := arguments.channel
    automatic := !arguments.ranges.isEmpty
    ranges := arguments.ranges }

/-- The capabilities of the radio. -/
def capabilities (arguments : Arguments) : Capabilities :=
  { n := arguments.n
    ac := arguments.ac
    ax := arguments.ax
    be := arguments.be
    sixGhz := arguments.bands.contains .ghz6
    bandwidth := arguments.bandwidth }

/-- The request for a single access point. -/
def request (arguments : Arguments) : Request :=
  { name := arguments.interface
    capabilities := arguments.capabilities
    channels := [arguments.channelSpec] }

/-- The network to offer. -/
def network (arguments : Arguments) : Network :=
  { ssid := Text.utf8Bytes arguments.ssid
    hidden := arguments.hidden
    security := arguments.security
    passphrase := arguments.passphrase
    metered := arguments.metered }

end Arguments

end SoftAp.CommandLine
