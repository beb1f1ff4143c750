import SoftAp.Bands

/-!
# Requests

What a caller asks for when it adds an access point: a radio with its capabilities, one channel
specification for each instance, and the network to offer.
-/

namespace SoftAp

/-- How the traffic of a network is protected. -/
inductive Security
  | unprotected
  | wpa
  | wpa2
  | saeTransition
  | sae
  | oweTransition
  | owe
  deriving DecidableEq, Repr

namespace Security

/-- The name of a protection in messages. -/
def name : Security → String
  | .unprotected => "None"
  | .wpa => "Wpa"
  | .wpa2 => "Wpa2"
  | .saeTransition => "Wpa3SaeTransition"
  | .sae => "Wpa3Sae"
  | .oweTransition => "Wpa3OweTransition"
  | .owe => "Wpa3Owe"

/-- The protection with a numeric code. -/
def ofCode? (code : Int32) : Option Security :=
  match code.toInt with
  | 0 => some .unprotected
  | 1 => some .wpa
  | 2 => some .wpa2
  | 3 => some .saeTransition
  | 4 => some .sae
  | 5 => some .oweTransition
  | 6 => some .owe
  | _ => none

end Security

/-- The width of a channel, as it is requested and as it is reported. -/
inductive Bandwidth
  | invalid
  | auto
  | mhz20NoHt
  | mhz20
  | mhz40
  | mhz80
  | mhz80p80
  | mhz160
  | mhz2160
  | mhz4320
  | mhz6480
  | mhz8640
  | mhz320
  deriving DecidableEq, Repr

/-- The capabilities an access point should run with. -/
structure Capabilities where
  /-- 802.11n, high throughput. -/
  n : Bool := false
  /-- 802.11ac, very high throughput. -/
  ac : Bool := false
  /-- 802.11ax, high efficiency. -/
  ax : Bool := false
  /-- 802.11be, extremely high throughput. -/
  be : Bool := false
  sixGhz : Bool := false
  singleUserBeamformer : Bool := false
  singleUserBeamformee : Bool := false
  multiUserBeamformer : Bool := false
  targetWakeTime : Bool := false
  /-- Channel bonding in the 60 GHz band. -/
  edmg : Bool := false
  bandwidth : Bandwidth := .invalid
  deriving DecidableEq, Repr

/-- A range of frequencies in MHz, both ends included. -/
structure FrequencyRange where
  low : Int32
  high : Int32
  deriving DecidableEq, Repr

/-- The channel of one instance.  With automatic selection the engine picks a channel out of the
ranges, and the channel number is ignored. -/
structure ChannelSpec where
  bands : Bands := {}
  channel : Int32 := 0
  automatic : Bool := false
  /-- Leave out the channels that need radar detection. -/
  excludeDfs : Bool := false
  ranges : List FrequencyRange := []
  deriving DecidableEq, Repr

/-- The network an access point offers. -/
structure Network where
  ssid : List UInt8 := []
  hidden : Bool := false
  security : Security := .unprotected
  passphrase : String := ""
  metered : Bool := false
  vendorElements : List UInt8 := []
  /-- Keep the clients from talking to each other. -/
  isolated : Bool := false
  deriving DecidableEq, Repr

/-- The interface side of a request.  With one channel specification `name` is the interface, with
two it is the bridge or the multi-link device that the two instances share. -/
structure Request where
  name : String := ""
  capabilities : Capabilities := {}
  channels : List ChannelSpec := []
  /-- The instances are links of one multi-link device. -/
  multiLink : Bool := false
  /-- The identities of the links, which stand in for the members of a bridge. -/
  linkIdentities : Option (List String) := none
  deriving DecidableEq, Repr

end SoftAp
