import SoftAp.Options
import SoftAp.Platform
import SoftAp.Request

/-!
# Notices

What the listeners are told about an instance, put together from an engine event and the state of
the instance at that moment.
-/

namespace SoftAp

/-- The generation of Wi-Fi that an access point runs. -/
inductive Generation
  | unknown
  | legacy
  | n
  | ac
  | ad
  | ax
  deriving DecidableEq, Repr

/-- The generation of a hardware mode. -/
def Generation.ofMode : Option ModeInfo → Generation
  | none => .unknown
  | some info =>
      match info.mode with
      | .b => .legacy
      | .g => if info.htCapabilities = 0 then .legacy else .n
      | .a =>
          if info.heSupported then .ax
          else if info.vhtCapabilities = 0 then .n
          else .ac
      | .ad => .ad
      | .any => .unknown

namespace InstanceState

/-- The bandwidth that an instance reports. -/
def bandwidth (state : InstanceState) : Bandwidth :=
  match state.width with
  | .ht =>
      if !state.ieee80211n then .mhz20NoHt
      else if state.secondaryChannel = 0 then .mhz20
      else .mhz40
  | .mhz80 => .mhz80
  | .mhz160 => .mhz160
  | .mhz80p80 => .mhz80p80
  | .mhz2160 => .mhz2160
  | .mhz4320 => .mhz4320
  | .mhz6480 => .mhz6480
  | .mhz8640 => .mhz8640
  | .mhz320 => .invalid

/-- The interface name that listeners see: the bridge if there is one. -/
def reportedInterface (state : InstanceState) : String :=
  if state.bridge = "" then state.interface else state.bridge

/-- The instance name that listeners see: the id of a link that is not bridged, otherwise the
interface. -/
def reportedInstance (state : InstanceState) : String :=
  if state.multiLink ∧ state.bridge = "" then toString state.linkId.toNat else state.interface

end InstanceState

/-- What is told of an instance that came up or changed its channel. -/
structure AccessPointInfo where
  interface : String
  instanceName : String
  frequency : Int32
  bandwidth : Bandwidth
  generation : Generation
  address : MacAddress
  deviceAddress : Option MacAddress
  deriving DecidableEq, Repr

/-- What is told of a client that joined or left. -/
structure ClientInfo where
  interface : String
  instanceName : String
  address : MacAddress
  connected : Bool
  /-- Why the client left, from version 3 of the service on. -/
  reason : Option UInt16
  deriving DecidableEq, Repr

/-- What a listener is told. -/
inductive Notice
  | accessPoint (info : AccessPointInfo)
  | client (info : ClientInfo)
  | failure (interface instanceName : String)
  deriving DecidableEq, Repr

namespace Notice

/-- The name of the callback that takes a notice. -/
def callback : Notice → String
  | .accessPoint _ => "onApInstanceInfoChanged"
  | .client _ => "onConnectedClientsChanged"
  | .failure _ _ => "onFailure"

/-- The reason for which no other is known. -/
def unspecifiedReason : UInt16 := 1

/-- The notice of an instance that failed. -/
def ofFailure (state : InstanceState) : Notice :=
  .failure state.reportedInterface state.reportedInstance

/-- The notice of an instance that came up or changed its channel. -/
def ofState (state : InstanceState) : Notice :=
  .accessPoint
    { interface := state.reportedInterface
      instanceName := state.reportedInstance
      frequency := state.frequency
      bandwidth := state.bandwidth
      generation := .ofMode state.mode
      address := state.address
      deviceAddress := if state.multiLink then state.deviceAddress else none }

/-- The notice of a client that joined or left. -/
def ofStation (state : InstanceState) (stations : Option (List Station)) (versions : Versions)
    (address : MacAddress) (authorized : Bool) : Notice :=
  .client
    { interface := state.reportedInterface
      instanceName := state.reportedInstance
      address := address
      connected := authorized
      reason :=
        if versions.serviceAtLeast 3 && !authorized then
          match findStation? stations address with
          | some station => some station.reason
          | none => some unspecifiedReason
        else none }

/-- Whether a text begins with a mark. -/
def startsWith (mark text : String) : Bool :=
  mark.toList.isPrefixOf text.toList

/-- The notice that a message of the engine leads to, if any. -/
def ofMessage? (state : InstanceState) (text : String) : Option Notice :=
  if startsWith "AP-ENABLED " text || startsWith "CTRL-EVENT-CHANNEL-SWITCH " text then
    some (ofState state)
  else if startsWith "AP-DISABLED " text || startsWith "INTERFACE-DISABLED " text then
    some (ofFailure state)
  else none

end Notice

end SoftAp
