import SoftAp.Config.Basic
import SoftAp.Config.Radio
import SoftAp.Host
import SoftAp.InstancePlan
import SoftAp.KeyTable.File

/-!
# The configuration of an instance

A plan is checked first and then written down, so a plan that is refused leaves nothing behind.  The
checks are made in a fixed order: network name, passphrase, bands, hardware address, overlay.  A
vendor may preset some keys of networks that are not metered.  Only the keys of a fixed list are
taken over, and they stand in front of all other entries.
-/

namespace SoftAp.Config

/-! ## Vendor overlays -/

/-- The keys that an overlay may set.  The list holds two entries that run several key names
together, so `assocresp_elements`, `beacon_int` and the `wmm_ac_bk` keys for the window and the
frame space are not in it. -/
def overlayableKeys : List String :=
  ["ap_max_inactivity",
   "assocresp_elementsbeacon_int",
   "disassoc_low_ack",
   "dtim_period",
   "fragm_threshold",
   "max_listen_interval",
   "max_num_sta",
   "rts_threshold",
   "skip_inactivity_poll",
   "uapsd_advertisement_enabled",
   "wmm_enabled",
   "wmm_ac_vo_aifs",
   "wmm_ac_vo_cwmin",
   "wmm_ac_vo_cwmax",
   "wmm_ac_vo_txop_limit",
   "wmm_ac_vo_acm",
   "wmm_ac_vi_aifs",
   "wmm_ac_vi_cwmin",
   "wmm_ac_vi_cwmax",
   "wmm_ac_vi_txop_limit",
   "wmm_ac_vi_acm",
   "wmm_ac_bk_cwminwmm_ac_bk_cwmaxwmm_ac_bk_aifs",
   "wmm_ac_bk_txop_limit",
   "wmm_ac_bk_acm",
   "wmm_ac_be_aifs",
   "wmm_ac_be_cwmin",
   "wmm_ac_be_cwmax",
   "wmm_ac_be_txop_limit",
   "wmm_ac_be_acm"]

/-- The entries that an overlay text contributes. -/
def entriesOfOverlay (text : String) : List Entry :=
  ((KeyTable.parse text).retain fun key => overlayableKeys.contains key).entries

/-- The entries of the overlay of a network, none if it is metered. -/
def overlayEntries (host : Host) (options : Options) (network : Network) :
    Except Refusal (List Entry) :=
  if network.metered then .ok []
  else
    match host.readOverlay options.overlayPath with
    | .error reason => .error (.unreadableOverlay options.overlayPath reason)
    | .ok none => .ok []
    | .ok (some text) => .ok (entriesOfOverlay text)

/-! ## Plans -/

/-- The entries of 802.11be.  From version 2 on, the address of the interface is fixed: as that of
the multi-link device or as that of the instance. -/
def ehtEntries (host : Host) (versions : Versions) (plan : InstancePlan) :
    Except Refusal (List Entry) :=
  if !usesEht plan.capabilities plan.channel.bands then .ok [("ieee80211be", "0")]
  else if versions.bothAtLeast 2 then
    match host.macAddress plan.engineInterface with
    | .error reason => .error (.noMacAddress plan.engineInterface reason)
    | .ok address =>
        .ok [("ieee80211be", "1"),
             (if plan.multiLink then "mld_addr" else "bssid", address.text),
             ("mld_ap", "1")]
  else .ok [("ieee80211be", "1")]

/-- The entries that say whether the connection behind the network is charged for. -/
def meteringEntries (network : Network) : List Entry :=
  if network.metered then [("interworking", "1"), ("access_network_type", "2")]
  else [("interworking", "0")]

/-- The entries in front of the channel. -/
def identityEntries (options : Options) (plan : InstancePlan) : List Entry :=
  [("interface", plan.engineInterface),
   ("driver", "nl80211"),
   ("ctrl_interface", Path.controlSocket options.controlDirectory plan.name),
   ("ssid2", Text.hex plan.network.ssid)]

/-- The entries that name what the instance belongs to. -/
def groupEntries (plan : InstancePlan) : List Entry :=
  entryIf plan.bridged "bridge" plan.group ++
    entryIf (plan.owePartner != "") "owe_transition_ifname" plan.owePartner

/-- All entries of a plan, given those that depend on the host and the hardware mode. -/
def planEntries (options : Options) (versions : Versions) (plan : InstancePlan)
    (overlay eht : List Entry) (mode : String) : List Entry :=
  overlay ++
    identityEntries options plan ++
    channelEntries plan.capabilities plan.channel ++
    [("ieee80211n", flag plan.capabilities.n), ("ieee80211ac", flag plan.capabilities.ac)] ++
    heEntries plan.capabilities plan.channel.bands ++
    eht ++
    [("hw_mode", mode)] ++
    widthEntries plan.capabilities plan.channel.bands ++
    [("ignore_broadcast_ssid", flag plan.network.hidden), ("wowlan_triggers", "any")] ++
    meteringEntries plan.network ++
    protectionEntries plan.network.security plan.channel.bands plan.capabilities.be
      plan.network.passphrase ++
    groupEntries plan ++
    edmgEntries plan.capabilities plan.channel ++
    entryIf (!plan.network.vendorElements.isEmpty) "vendor_elements"
      (Text.hex plan.network.vendorElements) ++
    [("ap_isolate", flag (versions.serviceAtLeast 3 && plan.network.isolated))]

/-- Check the length of a network name. -/
def checkSsid (network : Network) : Except Refusal Unit :=
  if 32 < network.ssid.length then .error (.ssidTooLong network.ssid.length) else .ok ()

/-- The hardware mode of a set of bands, or its refusal. -/
def hardwareMode (bands : Bands) : Except Refusal String :=
  match hardwareMode? bands with
  | some mode => .ok mode
  | none => .error (.invalidBands bands)

/-- The configuration of a plan. -/
def ofPlan (host : Host) (options : Options) (versions : Versions) (plan : InstancePlan) :
    Except Refusal Config := do
  checkSsid plan.network
  checkPassphrase plan.network
  let mode ← hardwareMode plan.channel.bands
  let eht ← ehtEntries host versions plan
  let overlay ← overlayEntries host options plan.network
  return ⟨planEntries options versions plan overlay eht mode⟩

end SoftAp.Config
