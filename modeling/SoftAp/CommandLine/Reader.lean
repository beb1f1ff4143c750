import SoftAp.Association
import SoftAp.CommandLine.Arguments

/-!
# Reading the command line

The arguments are read from the left.  An option takes its value from behind an equals sign or from
the next argument, unless that one begins with a hyphen and more.  The value of a next argument is
looked at only when a further option or the end of the line is reached, so an unknown argument right
behind it is reported first.
-/

namespace SoftAp.CommandLine

/-- Why the value of an option is refused. -/
inductive ValueError
  | notInteger (cause : Text.IntegerError)
  | outOfRange (value : Int64)
  | range (error : RangeError)
  deriving DecidableEq, Repr

/-- The wording of a value error. -/
def ValueError.message : ValueError → String
  | .notInteger cause => cause.message
  | .outOfRange value => toString value.toInt ++ " is not in -2147483648..=2147483647"
  | .range error => error.message

/-- Why a command line is not run. -/
inductive UsageError
  | missingRequired
  /-- A value that is not one of those allowed, or no value at all. -/
  | invalidValue
  | unknownArgument
  /-- An argument that is allowed once is there twice. -/
  | conflict
  /-- A switch has a value. -/
  | tooManyValues
  | refusedValue (error : ValueError)
  | help
  | version
  deriving DecidableEq, Repr

/-- The wording of a usage error. -/
def UsageError.message : UsageError → String
  | .missingRequired => "a required argument is missing"
  | .invalidValue => "an argument has no value or one that is not possible"
  | .unknownArgument => "there is an unexpected argument"
  | .conflict => "an argument cannot be used multiple times"
  | .tooManyValues => "an argument has an unexpected value"
  | .refusedValue error => "an argument has an invalid value: " ++ error.message
  | .help => "help is requested"
  | .version => "the version is requested"

/-- An argument that is on or off. -/
inductive Switch
  | n
  | ac
  | ax
  | be
  | metered
  | hidden
  deriving DecidableEq, Repr

/-- An argument with a value. -/
inductive Setting
  | interface
  | band
  | channel
  | ssid
  | encryption
  | passphrase
  | range
  | bandwidth
  | bridge
  | options
  | output
  deriving DecidableEq, Repr

/-- What a name on the command line stands for. -/
inductive Name
  | switch (switch : Switch)
  | setting (setting : Setting)
  | help
  | version
  deriving DecidableEq, Repr

/-- The names that follow two hyphens. -/
def names : List (String × Name) :=
  [("iface", .setting .interface),
   ("band", .setting .band),
   ("channel", .setting .channel),
   ("ieee80211n", .switch .n),
   ("ieee80211ac", .switch .ac),
   ("ieee80211ax", .switch .ax),
   ("ieee80211be", .switch .be),
   ("ssid", .setting .ssid),
   ("encryption", .setting .encryption),
   ("passphrase", .setting .passphrase),
   ("metered", .switch .metered),
   ("hidden", .switch .hidden),
   ("acs-range", .setting .range),
   ("bandwidth", .setting .bandwidth),
   ("bridge", .setting .bridge),
   ("options", .setting .options),
   ("output", .setting .output),
   ("help", .help),
   ("version", .version)]

/-- The bands by their names. -/
def bandNames : List (String × Band) :=
  [("2g", .ghz2), ("5g", .ghz5), ("6g", .ghz6), ("60g", .ghz60)]

/-- The protections by their names. -/
def securityNames : List (String × Security) :=
  [("none", .unprotected),
   ("wpa", .wpa),
   ("wpa2", .wpa2),
   ("wpa3-sae-transition", .saeTransition),
   ("wpa3-sae", .sae),
   ("wpa3-owe-transition", .oweTransition),
   ("wpa3-owe", .owe)]

/-- The bandwidths by their names. -/
def bandwidthNames : List (String × Bandwidth) :=
  [("auto", .auto), ("20", .mhz20), ("40", .mhz40), ("80", .mhz80), ("160", .mhz160)]

/-- A text with the ASCII letters in lower case. -/
def lowerCase (text : String) : String :=
  String.ofList (text.toList.map Char.toLower)

/-- Read one of the names of a list. -/
def readName {α : Type} (list : List (String × α)) (text : String) : Except UsageError α :=
  match list.find? fun entry => entry.1 == text with
  | some entry => .ok entry.2
  | none => .error .invalidValue

/-- Read a channel number. -/
def readChannel (text : String) : Except UsageError Int32 :=
  match Text.readInt64 text.toList with
  | .error cause => .error (.refusedValue (.notInteger cause))
  | .ok value =>
      if Int32.minValue.toInt ≤ value.toInt ∧ value.toInt ≤ Int32.maxValue.toInt then
        .ok value.toInt32
      else .error (.refusedValue (.outOfRange value))

/-- Read a range of frequencies for automatic selection. -/
def readRangeValue (text : String) : Except UsageError FrequencyRange :=
  match readRange text with
  | .ok range => .ok range
  | .error error => .error (.refusedValue (.range error))

/-- Read a path, which must not be empty. -/
def readPath (text : String) : Except UsageError String :=
  if text = "" then .error .invalidValue else .ok text

/-- The values given so far. -/
structure Given where
  interface : Option String := none
  bands : List Band := []
  channel : Option Int32 := none
  switches : List Switch := []
  ssid : Option String := none
  security : Option Security := none
  passphrase : Option String := none
  ranges : List FrequencyRange := []
  bandwidth : Option Bandwidth := none
  bridge : Option String := none
  options : Option String := none
  output : Option String := none
  deriving DecidableEq, Repr

namespace Given

/-- Read a value that may be given once. -/
def once {α : Type} (current : Option α) (value : Except UsageError α) (set : Option α → Given) :
    Except UsageError Given :=
  match current with
  | some _ => .error .conflict
  | none => value.map fun value => set (some value)

/-- Turn a switch on. -/
def turnOn (given : Given) (switch : Switch) : Except UsageError Given :=
  if given.switches.contains switch then .error .conflict
  else .ok { given with switches := given.switches ++ [switch] }

/-- Take up the value of a setting. -/
def put (given : Given) (setting : Setting) (value : String) : Except UsageError Given :=
  match setting with
  | .interface => once given.interface (.ok value) fun v => { given with interface := v }
  | .band =>
      (readName bandNames (lowerCase value)).map fun band =>
        { given with bands := given.bands ++ [band] }
  | .channel => once given.channel (readChannel value) fun v => { given with channel := v }
  | .ssid => once given.ssid (.ok value) fun v => { given with ssid := v }
  | .encryption =>
      once given.security (readName securityNames (lowerCase value)) fun v =>
        { given with security := v }
  | .passphrase => once given.passphrase (.ok value) fun v => { given with passphrase := v }
  | .range =>
      (readRangeValue value).map fun range => { given with ranges := given.ranges ++ [range] }
  | .bandwidth =>
      once given.bandwidth (readName bandwidthNames value) fun v => { given with bandwidth := v }
  | .bridge => once given.bridge (.ok value) fun v => { given with bridge := v }
  | .options => once given.options (readPath value) fun v => { given with options := v }
  | .output => once given.output (readPath value) fun v => { given with output := v }

/-- The arguments, with the defaults for what is not given. -/
def arguments (given : Given) : Except UsageError Arguments :=
  match given.interface, given.bands with
  | none, _ => .error .missingRequired
  | _, [] => .error .missingRequired
  | some interface, bands =>
      .ok
        { interface := interface
          bands := bands
          channel := given.channel.getD 0
          n := given.switches.contains .n
          ac := given.switches.contains .ac
          ax := given.switches.contains .ax
          be := given.switches.contains .be
          ssid := given.ssid.getD ""
          security := given.security.getD .unprotected
          passphrase := given.passphrase.getD ""
          metered := given.switches.contains .metered
          hidden := given.switches.contains .hidden
          ranges := given.ranges
          bandwidth := given.bandwidth.getD .auto
          bridge := given.bridge.getD ""
          options := given.options
          output := given.output }

end Given

/-- A setting whose value has not been looked at. -/
structure Pending where
  setting : Setting
  value : Option String
  deriving DecidableEq, Repr

/-- How far a command line has been read. -/
structure Reading where
  given : Given := {}
  pending : Option Pending := none
  deriving DecidableEq, Repr

namespace Reading

/-- Look at the pending value. -/
def settle (reading : Reading) : Except UsageError Given :=
  match reading.pending with
  | none => .ok reading.given
  | some ⟨_, none⟩ => .error .invalidValue
  | some ⟨setting, some value⟩ => reading.given.put setting value

/-- Read an argument that begins with two hyphens. -/
def long (reading : Reading) (name : String) (value : Option String) :
    Except UsageError Reading := do
  match Association.get? name names, value with
  | none, _ => throw .unknownArgument
  | some (.setting setting), some value =>
      let given ← reading.settle
      return { given := ← given.put setting value }
  | some (.setting setting), none =>
      let given ← reading.settle
      return { given := given, pending := some ⟨setting, none⟩ }
  | some _, some _ => throw .tooManyValues
  | some (.switch switch), none =>
      let given ← reading.settle
      return { given := ← given.turnOn switch }
  | some .help, none =>
      let _ ← reading.settle
      throw .help
  | some .version, none =>
      let _ ← reading.settle
      throw .version

/-- Read an argument that begins with one hyphen, given the character behind it. -/
def short (reading : Reading) (c : Char) : Except UsageError Reading := do
  if c = 'h' then
    let _ ← reading.settle
    throw .help
  else if c = 'V' then
    let _ ← reading.settle
    throw .version
  else throw .unknownArgument

/-- Read an argument without a hyphen in front: the value of a pending setting. -/
def plain (reading : Reading) (text : String) : Except UsageError Reading :=
  match reading.pending with
  | some ⟨setting, none⟩ => .ok { reading with pending := some ⟨setting, some text⟩ }
  | _ => .error .unknownArgument

/-- Read one argument. -/
def argument (reading : Reading) (text : String) : Except UsageError Reading :=
  match text.toList with
  | '-' :: '-' :: rest =>
      match Text.splitFirst? '=' rest with
      | none => reading.long (String.ofList rest) none
      | some (name, value) => reading.long (String.ofList name) (some (String.ofList value))
  | '-' :: c :: _ => reading.short c
  | _ => reading.plain text

/-- Read arguments up to the end.  Behind two hyphens alone no argument is known. -/
def readAll : Reading → List String → Except UsageError Arguments
  | reading, [] => do (← reading.settle).arguments
  | reading, "--" :: rest =>
      match rest with
      | [] => do (← reading.settle).arguments
      | _ :: _ => .error .unknownArgument
  | reading, text :: rest => do readAll (← reading.argument text) rest

end Reading

/-- Read a command line. -/
def Arguments.read (texts : List String) : Except UsageError Arguments :=
  Reading.readAll {} texts

end SoftAp.CommandLine
