import Mathlib.Data.List.Perm.Subperm
import SoftAp.Proofs.PlanEntries

/-!
# The keys of the groups of entries

A configuration is put together from groups of entries, each with keys of its own.  A group has none
of them twice, so its keys are drawn from a list.
-/

namespace SoftAp.Config

/-- The keys of some entries are among others. -/
def Among (keys : List String) (entries : List Entry) : Prop :=
  ∀ entry ∈ entries, entry.1 ∈ keys

/-- The keys of some entries are drawn from a list: each occurs as often as there at most. -/
def Drawn (keys : List String) (entries : List Entry) : Prop :=
  (entries.map Prod.fst).Subperm keys

section

variable {keys more : List String} {entries first second : List Entry} {key value : String}

theorem Among.mono (h : Among keys entries) (hKeys : keys ⊆ more) : Among more entries := by
  intro entry hMem
  exact hKeys (h entry hMem)

theorem Keyed.among (h : Keyed keys entries) : Among keys entries := by
  intro entry hMem
  exact (h entry hMem).1

@[simp] theorem among_nil : Among keys [] := by
  intro entry hMem
  cases hMem

@[simp] theorem among_cons :
    Among keys ((key, value) :: entries) ↔ key ∈ keys ∧ Among keys entries := by
  unfold Among
  rw [List.forall_mem_cons]

@[simp] theorem among_append :
    Among keys (first ++ second) ↔ Among keys first ∧ Among keys second := by
  unfold Among
  exact List.forall_mem_append

theorem Drawn.append (h : Drawn keys first) (h' : Drawn more second) :
    Drawn (keys ++ more) (first ++ second) := by
  unfold Drawn
  rw [List.map_append]
  exact List.Subperm.append h h'

theorem drawn_entryIf (condition : Bool) (key value : String) :
    Drawn [key] (entryIf condition key value) := by
  cases condition with
  | false => exact List.nil_subperm
  | true => exact List.Subperm.refl [key]

theorem Drawn.among (h : Drawn keys entries) : Among keys entries := by
  intro entry hMem
  exact List.Subperm.subset h (List.mem_map_of_mem hMem)

end

/-! ## The groups -/

/-- The keys in front of the channel. -/
def identityKeys : List String :=
  ["interface", "driver", "ctrl_interface", "ssid2"]

theorem drawn_identityEntries (options : Options) (plan : InstancePlan) :
    Drawn identityKeys (identityEntries options plan) :=
  List.Subperm.refl identityKeys

def channelKeys : List String :=
  ["channel", "acs_exclude_dfs", "freqlist", "op_class"]

theorem drawn_channelEntries (capabilities : Capabilities) (spec : ChannelSpec) :
    Drawn channelKeys (channelEntries capabilities spec) := by
  unfold channelEntries
  split
  · show ["channel", "acs_exclude_dfs", "freqlist"].Subperm channelKeys
    decide
  · show ["channel", "op_class"].Subperm channelKeys
    decide

/-- The keys of 802.11n and 802.11ac. -/
def modeKeys : List String :=
  ["ieee80211n", "ieee80211ac"]

theorem drawn_modeEntries (capabilities : Capabilities) :
    Drawn modeKeys [("ieee80211n", flag capabilities.n), ("ieee80211ac", flag capabilities.ac)] :=
  List.Subperm.refl modeKeys

/-- The keys of 802.11ax. -/
def heKeys : List String :=
  ["ieee80211ax", "he_su_beamformer", "he_su_beamformee", "he_mu_beamformer", "he_twt_required"]

theorem drawn_heEntries (capabilities : Capabilities) (bands : Bands) :
    Drawn heKeys (heEntries capabilities bands) := by
  unfold heEntries
  split
  · exact List.Subperm.refl heKeys
  · show ["ieee80211ax"].Subperm heKeys
    decide

theorem drawn_ehtEntries {host : Host} {versions : Versions} {plan : InstancePlan}
    {eht : List Entry} (h : ehtEntries host versions plan = .ok eht) : Drawn ehtKeys eht := by
  have hAlone : ["ieee80211be"].Subperm ehtKeys := by decide
  unfold ehtEntries at h
  split at h
  · cases h
    exact hAlone
  · split at h
    · split at h
      · cases h
      · cases h
        cases plan.multiLink with
        | false =>
            show ["ieee80211be", "bssid", "mld_ap"].Subperm ehtKeys
            decide
        | true =>
            show ["ieee80211be", "mld_addr", "mld_ap"].Subperm ehtKeys
            decide
    · cases h
      exact hAlone

def widthKeys : List String :=
  ["ht_capab", "eht_oper_chwidth", "he_oper_chwidth", "vht_oper_chwidth", "op_class"]

theorem drawn_widthEntries (capabilities : Capabilities) (bands : Bands) :
    Drawn widthKeys (widthEntries capabilities bands) := by
  unfold widthEntries
  split
  · next width _ =>
    have hWidths : Drawn ["eht_oper_chwidth", "he_oper_chwidth", "vht_oper_chwidth"]
        [("eht_oper_chwidth", widthCode (usesEht capabilities bands) width),
         ("he_oper_chwidth", widthCode (usesHe capabilities bands) width),
         ("vht_oper_chwidth", widthCode capabilities.ac width)] := List.Subperm.refl _
    exact ((drawn_entryIf _ _ _).append hWidths).append (drawn_entryIf _ _ _)
  · split
    · exact List.nil_subperm
    · have hOpen : Drawn
          (["ht_capab"] ++ ["vht_oper_chwidth"] ++ ["op_class"] ++ ["he_oper_chwidth"] ++
            ["eht_oper_chwidth"]) (openWidthEntries capabilities bands) :=
        ((((drawn_entryIf _ _ _).append (drawn_entryIf _ _ _)).append (drawn_entryIf _ _ _)).append
          (drawn_entryIf _ _ _)).append (drawn_entryIf _ _ _)
      exact List.Subperm.trans hOpen (by decide)

theorem drawn_hardwareMode (mode : String) : Drawn ["hw_mode"] [("hw_mode", mode)] :=
  List.Subperm.refl _

/-- The keys that say whether the network can be seen and what wakes the machine. -/
def visibilityKeys : List String :=
  ["ignore_broadcast_ssid", "wowlan_triggers"]

theorem drawn_visibilityEntries (hidden : Bool) :
    Drawn visibilityKeys [("ignore_broadcast_ssid", flag hidden), ("wowlan_triggers", "any")] :=
  List.Subperm.refl visibilityKeys

/-- The keys that say whether the connection behind a network is charged for. -/
def meteringKeys : List String :=
  ["interworking", "access_network_type"]

theorem drawn_meteringEntries (network : Network) :
    Drawn meteringKeys (meteringEntries network) := by
  unfold meteringEntries
  split
  · exact List.Subperm.refl meteringKeys
  · show ["interworking"].Subperm meteringKeys
    decide

/-- The keys that say how the traffic is protected. -/
def protectionKeys : List String :=
  ["wpa", "wpa_pairwise", "wpa_passphrase", "rsn_pairwise", "wpa_key_mgmt", "ieee80211w",
   "sae_require_mfp", "sae_pwe", "sae_password"]

theorem drawn_protectionEntries (security : Security) (bands : Bands) (be : Bool)
    (passphrase : String) :
    Drawn protectionKeys (protectionEntries security bands be passphrase) := by
  have hSae : ∀ cipher, Drawn protectionKeys (saeEntries cipher bands be passphrase) := by
    intro cipher
    show ["wpa", "rsn_pairwise", "wpa_key_mgmt", "ieee80211w", "sae_require_mfp", "sae_pwe",
      "sae_password"].Subperm protectionKeys
    decide
  have hOwe : Drawn protectionKeys (oweEntries bands) := by
    show ["wpa", "rsn_pairwise", "wpa_key_mgmt", "ieee80211w"].Subperm protectionKeys
    decide
  cases security with
  | unprotected => exact List.nil_subperm
  | wpa =>
      show ["wpa", "wpa_pairwise", "wpa_passphrase"].Subperm protectionKeys
      decide
  | wpa2 =>
      show ["wpa", "rsn_pairwise", "wpa_passphrase"].Subperm protectionKeys
      decide
  | saeTransition =>
      show Drawn protectionKeys (if bands.has .ghz6 then saeEntries "CCMP" bands be passphrase
        else saeTransitionEntries bands be passphrase)
      split
      · -- the 6 GHz band has no WPA-PSK
        exact hSae "CCMP"
      · show ["wpa", "rsn_pairwise", "wpa_key_mgmt", "ieee80211w", "sae_require_mfp",
          "wpa_passphrase", "sae_password"].Subperm protectionKeys
        decide
  | sae => exact hSae (pairwiseCipher bands)
  | oweTransition => exact hOwe
  | owe => exact hOwe

/-- The keys that name what an instance belongs to. -/
def groupKeys : List String :=
  ["bridge", "owe_transition_ifname"]

theorem drawn_groupEntries (plan : InstancePlan) : Drawn groupKeys (groupEntries plan) :=
  (drawn_entryIf _ "bridge" _).append (drawn_entryIf _ "owe_transition_ifname" _)

/-- The keys behind all others. -/
def tailKeys : List String :=
  ["enable_edmg", "edmg_channel", "vendor_elements", "ap_isolate"]

theorem drawn_planTail (versions : Versions) (plan : InstancePlan) :
    Drawn tailKeys (planTail versions plan) := by
  have hEdmg : Drawn ["enable_edmg", "edmg_channel"]
      (edmgEntries plan.capabilities plan.channel) := by
    unfold edmgEntries
    split
    · exact List.Subperm.refl _
    · exact List.nil_subperm
  have hLast : Drawn ["ap_isolate"]
      [("ap_isolate", flag (versions.serviceAtLeast 3 && plan.network.isolated))] :=
    List.Subperm.refl _
  exact (hEdmg.append (drawn_entryIf _ "vendor_elements" _)).append hLast

end SoftAp.Config
