import SoftAp.Host

/-!
# The platform

The service runs on an engine and a host.  The engine owns the running instances.  It hands out a
handle for each of them, and a caller refers to an instance by its handle only.  Engine and host are
one platform `W` here because starting an instance involves both: the engine reads the file that the
host has written.  Every call takes the platform and gives back an answer and the platform
afterwards; nothing is assumed of the answers.
-/

namespace SoftAp

/-! ## The access point engine -/

/-- What the engine calls a running instance. -/
structure Handle where
  index : UInt32
  deriving DecidableEq, Repr

/-- The text of a handle. -/
def Handle.text (handle : Handle) : String :=
  "#" ++ toString handle.index.toNat

/-- The state of an engine interface. -/
inductive InterfaceState
  | uninitialized
  | disabled
  | countryUpdate
  | acs
  | htScan
  | dfs
  | noIr
  | enabled
  deriving DecidableEq, Repr

/-- The text of an interface state. -/
def InterfaceState.text : InterfaceState → String
  | .uninitialized => "UNINITIALIZED"
  | .disabled => "DISABLED"
  | .countryUpdate => "COUNTRY_UPDATE"
  | .acs => "ACS"
  | .htScan => "HT_SCAN"
  | .dfs => "DFS"
  | .noIr => "NO_IR"
  | .enabled => "ENABLED"

/-- A hardware mode. -/
inductive HardwareMode
  | b
  | g
  | a
  | ad
  | any
  deriving DecidableEq, Repr

/-- The hardware mode that an interface runs, with what it is capable of. -/
structure ModeInfo where
  mode : HardwareMode
  htCapabilities : UInt16
  vhtCapabilities : UInt32
  heSupported : Bool
  deriving DecidableEq, Repr

/-- The width of the operating channel. -/
inductive OperatingWidth
  /-- 20 or 40 MHz, as 802.11n decides. -/
  | ht
  | mhz80
  | mhz160
  | mhz80p80
  | mhz2160
  | mhz4320
  | mhz6480
  | mhz8640
  | mhz320
  deriving DecidableEq, Repr

/-- What the engine tells about an instance. -/
structure InstanceState where
  /-- The interface the instance runs on, the device for a link. -/
  interface : String := "wlan0"
  /-- The bridge of the instance, empty if there is none. -/
  bridge : String := ""
  /-- The instance is a link of a multi-link device. -/
  multiLink : Bool := false
  linkId : UInt8 := 0
  interfaceState : InterfaceState := .enabled
  frequency : Int32 := 2437
  mode : Option ModeInfo := none
  width : OperatingWidth := .ht
  ieee80211n : Bool := true
  /-- On which side of the primary channel the secondary one lies, 0 if there is none. -/
  secondaryChannel : Int8 := 0
  address : MacAddress := .zero
  deviceAddress : Option MacAddress := none
  deriving DecidableEq, Repr

/-- A client of an instance, with the reason of its last deauthentication. -/
structure Station where
  address : MacAddress
  reason : UInt16
  deriving DecidableEq, Repr

/-- The first station with an address; a missing list has no stations. -/
def findStation? (stations : Option (List Station)) (address : MacAddress) : Option Station :=
  (stations.getD []).find? fun station => station.address == address

/-- What the engine reports of an instance. -/
inductive EngineEvent
  | setupComplete
  | stationAuthorized (address : MacAddress) (authorized : Bool)
  | message (text : String)
  deriving DecidableEq, Repr

/-- Why the engine refuses a call. -/
inductive EngineError
  | addInterface (interface : String)
  | enableInterface (interface : String)
  | removeInterface (interface : String)
  | removeLink (link : UInt8)
  | unknownInstance (name : String)
  deriving DecidableEq, Repr

/-- The wording of an engine error. -/
def EngineError.message : EngineError → String
  | .addInterface interface => "Adding hostapd iface " ++ interface ++ " failed"
  | .enableInterface interface => "Enabling interface " ++ interface ++ " failed"
  | .removeInterface interface => "Remove interface " ++ interface ++ " failed"
  | .removeLink link => "Removing link " ++ toString link.toNat ++ " failed"
  | .unknownInstance name => "Unknown instance " ++ name

/-- How much the engine writes to its log. -/
inductive DebugLevel
  | excessive
  | messageDump
  | debug
  | info
  | warning
  | error
  deriving DecidableEq, Repr

/-- The answers of the engine at one moment. -/
structure EngineView where
  /-- The instance on an interface. -/
  findInterface : String → Option Handle
  /-- The link with an id; instances that are not links never match. -/
  findLink : UInt8 → Option Handle
  /-- All instances in the order of the engine. -/
  instances : List Handle
  state : Handle → Option InstanceState
  /-- The clients of an instance, if it keeps a list of them. -/
  stations : Handle → Option (List Station)

/-! ## Calls -/

/-- The calls that the service makes to the engine and the host. -/
class Platform (W : Type) where
  /-- The answers of the host. -/
  host : W → Host
  /-- The answers of the engine. -/
  engine : W → EngineView
  /-- Write a configuration file, given its path and its text. -/
  writeConfig : String → String → W → Except String Unit × W
  /-- Add an interface that runs the configuration at a path. -/
  addInterface : String → String → W → Except EngineError Unit × W
  removeInterface : Handle → W → Except EngineError Unit × W
  enableInterface : Handle → W → Except EngineError Unit × W
  disconnectStation : Handle → MacAddress → UInt16 → W → Except EngineError Unit × W
  /-- Remove one link from its multi-link device. -/
  removeLink : Handle → W → Except EngineError Unit × W
  setDebugLevel : DebugLevel → W → W
  /-- Stop the engine. -/
  terminate : W → W

end SoftAp
