import SoftAp.KeyTable.File
import SoftAp.Text

/-!
# Options

The options of the service, read from a file of keys and values, the paths of the files that the
service has to do with, and the interface versions that decide which features are used.
-/

namespace SoftAp

/-! ## Paths -/

namespace Path

/-- A name below a directory.  No slash is added behind a directory that is empty or ends with one,
and an absolute name stands for itself. -/
def join (directory name : String) : String :=
  if name.toList.head? = some '/' then name
  else
    match directory.toList.getLast? with
    | none => name
    | some '/' => directory ++ name
    | some _ => directory ++ "/" ++ name

/-- The configuration file of an instance.  The links of a multi-link device share one interface, so
their files are named for the device and the link. -/
def configFile (directory instanceName group : String) (multiLink : Bool) : String :=
  let name := if multiLink then group ++ "-" ++ instanceName else instanceName
  join directory ("hostapd_" ++ name ++ ".conf")

/-- The control socket of an instance. -/
def controlSocket (directory instanceName : String) : String :=
  join directory ("ctrl_" ++ instanceName)

/-- The name of the package that a program belongs to: the first step of its path below `/apex/`. -/
def packageName? (program : String) : Option String :=
  if "/apex/".toList.isPrefixOf program.toList then
    match (program.toList.drop 6).takeWhile (· ≠ '/') with
    | [] => none
    | name => some (String.ofList name)
  else none

/-- A configuration file of the vendor: inside the package of the running program if it is part of
one, otherwise on the vendor partition. -/
def vendorFile (program file : String) : String :=
  match packageName? program with
  | some package => "/apex/" ++ package ++ file
  | none => "/vendor" ++ file

end Path

/-! ## The options of the service -/

/-- What to do with the instances that are already running when a later one of the same request
fails. -/
inductive Rollback
  | leaveRunning
  | removeStarted
  deriving DecidableEq, Repr

/-- The rollback policy with a name. -/
def Rollback.ofName? (name : String) : Option Rollback :=
  if name = "leave_running" then some .leaveRunning
  else if name = "remove_started" then some .removeStarted
  else none

/-- Where a vendor keeps the overlay for networks that are not metered. -/
def overlayFile : String := "/etc/wifi/hostapd_unmetered_overlay.conf"

/-- The options of the service. -/
structure Options where
  /-- Where the configuration files are written. -/
  configDirectory : String := "/data/vendor/wifi/hostapd"
  /-- Where the control sockets are. -/
  controlDirectory : String := "/data/vendor/wifi/hostapd"
  /-- The vendor's entries for networks that are not metered. -/
  overlayPath : String := "/vendor" ++ overlayFile
  serviceVersion : Int32 := 3
  rollback : Rollback := .leaveRunning
  deriving DecidableEq, Repr

/-- Why the options cannot be read. -/
inductive OptionsError
  | invalidServiceVersion (value : String) (cause : Text.IntegerError)
  | invalidRollback (value : String)
  deriving DecidableEq, Repr

/-- The wording of an options error. -/
def OptionsError.message : OptionsError → String
  | .invalidServiceVersion value cause =>
      "Invalid service_version " ++ value ++ ": " ++ cause.message
  | .invalidRollback value => "Invalid rollback_policy: " ++ value

namespace Options

/-- The options of a program when nothing else is said. -/
def ofProgram (program : String) : Options :=
  { overlayPath := Path.vendorFile program overlayFile }

/-- Set the option that an entry names; unknown keys are ignored. -/
def set (options : Options) (entry : Entry) : Except OptionsError Options :=
  match entry with
  | ("conf_dir", value) => .ok { options with configDirectory := value }
  | ("ctrl_dir", value) => .ok { options with controlDirectory := value }
  | ("overlay_path", value) => .ok { options with overlayPath := value }
  | ("service_version", value) =>
      match Text.readInt32 value.toList with
      | .ok version => .ok { options with serviceVersion := version }
      | .error cause => .error (.invalidServiceVersion value cause)
  | ("rollback_policy", value) =>
      match Rollback.ofName? value with
      | some policy => .ok { options with rollback := policy }
      | none => .error (.invalidRollback value)
  | _ => .ok options

/-- Set the options of entries from the left, up to the first error. -/
def setAll : Options → List Entry → Except OptionsError Options
  | options, [] => .ok options
  | options, entry :: rest =>
      match options.set entry with
      | .ok next => setAll next rest
      | .error error => .error error

/-- The options in a table of keys and values; missing keys keep their defaults. -/
def ofTable (defaults : Options) (table : KeyTable) : Except OptionsError Options :=
  setAll defaults table.entries

end Options

/-- The interface versions of the service and of its client.  Both are 0 until a listener is
registered. -/
structure Versions where
  service : Int32 := 0
  client : Int32 := 0
  deriving DecidableEq, Repr

namespace Versions

/-- Whether the service has at least a version. -/
def serviceAtLeast (version : Int32) (versions : Versions) : Bool :=
  version ≤ versions.service

/-- Whether the client has at least a version. -/
def clientAtLeast (version : Int32) (versions : Versions) : Bool :=
  version ≤ versions.client

/-- Whether both sides have at least a version. -/
def bothAtLeast (version : Int32) (versions : Versions) : Bool :=
  versions.serviceAtLeast version && versions.clientAtLeast version

end Versions

end SoftAp
