import SoftAp.CommandLine.Reader
import SoftAp.Config.Build
import SoftAp.Folder
import SoftAp.Host

/-!
# The program

The program prints the configuration of an access point, or writes it to a file, without starting
anything.  Since no client takes part, the version of the service stands for both sides.  On request
it tells what it is and what its arguments mean.
-/

namespace SoftAp.CommandLine

/-! ## Help -/

/-- The name of the program, in front of its log lines. -/
def programName : String := "hostapd-conf"

/-- The text for a request of the version. -/
def versionText : String :=
  programName ++ " 0.1.0\n"

/-- The column in which the meaning of an argument begins. -/
def meaningColumn : Nat := 33

/-- How the arguments are written, each with its meaning. -/
def argumentMeanings : List (String × String) :=
  [("      --iface <IFACE>", "Interface the access point runs on"),
   ("      --band <BAND>",
     "Radio band, repeat for a multi band access point [possible values: 2g, 5g, 6g, 60g]"),
   ("      --channel <CHANNEL>",
     "Channel number, ignored when ACS ranges are given [default: 0]"),
   ("      --ieee80211n", "Enable 802.11n"),
   ("      --ieee80211ac", "Enable 802.11ac"),
   ("      --ieee80211ax", "Enable 802.11ax"),
   ("      --ieee80211be", "Enable 802.11be"),
   ("      --ssid <SSID>", "Network SSID [default: \"\"]"),
   ("      --encryption <ENCRYPTION>",
     "Security of the network [default: none] [possible values: none, wpa, wpa2, " ++
       "wpa3-sae-transition, wpa3-sae, wpa3-owe-transition, wpa3-owe]"),
   ("      --passphrase <PASSPHRASE>",
     "Passphrase for WPA, WPA2 and SAE networks [default: \"\"]"),
   ("      --metered", "Mark the connection behind the network as metered"),
   ("      --hidden", "Hide the SSID from beacons"),
   ("      --acs-range <ACS_RANGES>",
     "Frequency range for automatic channel selection, as start-end or a single frequency in " ++
       "MHz. Enables ACS"),
   ("      --bandwidth <BANDWIDTH>",
     "Maximum channel bandwidth [default: auto] [possible values: auto, 20, 40, 80, 160]"),
   ("      --bridge <BRIDGE>", "Bridge the access point belongs to [default: \"\"]"),
   ("      --options <OPTIONS>", "Service options file with key=value lines"),
   ("      --output <OUTPUT>", "Write the config to this file instead of stdout"),
   ("  -h, --help", "Print help"),
   ("  -V, --version", "Print version")]

/-- A line of the help: an argument and its meaning in two columns. -/
def helpLine (argument : String × String) : String :=
  argument.1.pushn ' ' (meaningColumn - argument.1.length) ++ argument.2 ++ "\n"

/-- The text for a request of help. -/
def helpText : String :=
  "Render the hostapd.conf of an access point without starting it\n\n" ++
    "Usage: " ++ programName ++ " [OPTIONS] --iface <IFACE> --band <BAND>\n\nOptions:\n" ++
    String.join (argumentMeanings.map helpLine)

/-! ## Rendering -/

/-- Why no configuration is rendered: a refusal, for an interface. -/
structure RenderError where
  interface : String
  cause : Config.Refusal
  deriving DecidableEq, Repr

/-- The wording of a render error. -/
def RenderError.message (error : RenderError) : String :=
  "Failed to generate config for " ++ error.interface ++ ": " ++ error.cause.message

/-- The plan of the instance that the arguments describe. -/
def Arguments.plan (arguments : Arguments) : InstancePlan :=
  { arguments.request.singlePlan arguments.network arguments.channelSpec with
    group := arguments.bridge }

/-- The text of the configuration that the arguments describe. -/
def render (host : Host) (options : Options) (arguments : Arguments) :
    Except RenderError String :=
  match Config.ofPlan host options ⟨options.serviceVersion, options.serviceVersion⟩
      arguments.plan with
  | .ok config => .ok config.render
  | .error cause => .error ⟨arguments.interface, cause⟩

/-- How a run of the program ends. -/
inductive Ending
  | printed (text : String)
  | failed (message : String)
  | misused (error : UsageError)
  deriving DecidableEq, Repr

/-- The ending of a run whose command line was not accepted; help and version are printed. -/
def Ending.ofUsage : UsageError → Ending
  | .help => .printed helpText
  | .version => .printed versionText
  | error => .misused error

/-- The exit code that goes with an ending. -/
def Ending.exitCode : Ending → UInt32
  | .printed _ => 0
  | .failed _ => 1
  | .misused _ => 2

/-- What the program asks of the machine it runs on. -/
structure Machine (m : Type → Type) where
  readFile : String → m (Except FileError String)
  macAddress : String → m (Except String MacAddress)
  /-- Write a configuration that its owner and group alone may read. -/
  writeConfig : String → String → m (Except FileError Unit)

section

variable {m : Type → Type} [Monad m]

/-- The options in the file that the arguments name, or those of the program. -/
def readOptions (machine : Machine m) (program : String) (arguments : Arguments) :
    m (Except String Options) := do
  match arguments.options with
  | none => return .ok (.ofProgram program)
  | some path =>
      match ← machine.readFile path with
      | .error error =>
          return .error ("Failed to read options file " ++ path ++ ": " ++ error.message)
      | .ok text =>
          match Options.ofTable (.ofProgram program) (.parse text) with
          | .ok options => return .ok options
          | .error error => return .error error.message

/-- The answers of the machine that a configuration may need. -/
def inspect (machine : Machine m) (options : Options) (arguments : Arguments) : m Host := do
  let overlay ← machine.readFile options.overlayPath
  let address ← machine.macAddress arguments.interface
  return {
    readOverlay := fun _ => (overlayOfFile overlay).mapError FileError.message
    macAddress := fun _ => address
    bridgeMembers := InterfaceName.missingBridge }

/-- Print a configuration or write it to a file. -/
def deliver (machine : Machine m) (arguments : Arguments) (text : String) : m Ending := do
  match arguments.output with
  | none => return .printed text
  | some path =>
      match ← machine.writeConfig path text with
      | .ok () => return .printed ""
      | .error error => return .failed error.message

/-- Run the program on a machine. -/
def run (machine : Machine m) (program : String) (texts : List String) : m Ending := do
  match Arguments.read texts with
  | .error error => return .ofUsage error
  | .ok arguments =>
      match ← readOptions machine program arguments with
      | .error message => return .failed message
      | .ok options =>
          let host ← inspect machine options arguments
          match render host options arguments with
          | .error error => return .failed error.message
          | .ok text => deliver machine arguments text

end

/-- A machine without network interfaces, seen from one of its folders. -/
def folderMachine : Machine (StateM Folder) where
  readFile path := return (← get).read path
  macAddress name := return InterfaceName.missingAddress name
  writeConfig path text := do
    match (← get).writeConfig path text with
    | .ok folder =>
        set folder
        return .ok ()
    | .error error => return .error error

/-- Run the program in a folder. -/
def runInFolder (texts : List String) (folder : Folder) : Ending × Folder :=
  run folderMachine "" texts folder

end SoftAp.CommandLine
