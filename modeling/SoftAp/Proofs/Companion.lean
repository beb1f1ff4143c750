import SoftAp.Proofs.PlanValues
import SoftAp.Proofs.RequestFiles
import SoftAp.Proofs.UnusedPassphrase

/-!
# Networks in OWE transition

A network in OWE transition is offered twice on a bridge: openly under its own name, and by a hidden
companion that encrypts and has a random name.  The configuration of each names the interface of the
other.  Neither uses the passphrase of the network, so a request does the same with any passphrase.
-/

namespace SoftAp

/-! ## The two halves -/

namespace Config

/-- A configuration that offers a network openly on an interface and names that of its companion. -/
structure OpenHalf (ssid : List UInt8) (hidden : Bool) (interface partner : String)
    (config : Config) : Prop where
  interface : config.values "interface" = [interface]
  ssid : config.values "ssid2" = [Text.hex ssid]
  visibility : config.values "ignore_broadcast_ssid" = [flag hidden]
  unprotected : ∀ key ∈ ["wpa", "wpa_key_mgmt", "rsn_pairwise", "ieee80211w", "wpa_passphrase",
    "sae_password"], config.values key = []
  partner : config.values "owe_transition_ifname" = [partner]

/-- A configuration of a hidden companion on an interface that names that of its open half. -/
structure Companion (ssid : List UInt8) (interface partner : String) (config : Config) : Prop where
  interface : config.values "interface" = [interface]
  ssid : config.values "ssid2" = [Text.hex ssid]
  hidden : config.values "ignore_broadcast_ssid" = ["1"]
  keyManagement : config.values "wpa_key_mgmt" = ["OWE"]
  managementFrames : config.values "ieee80211w" = ["2"]
  noPassphrase : ∀ key ∈ ["wpa_passphrase", "sae_password"], config.values key = []
  partner : config.values "owe_transition_ifname" = [partner]

section

variable {host : Host} {options : Options} {versions : Versions} {plan : InstancePlan}
  {config : Config}

/-- A plan without protection that has a partner is configured as the open half of a pair. -/
theorem openHalf_ofPlan (h : ofPlan host options versions plan = .ok config)
    (hSingle : plan.multiLink = false) (hSecurity : plan.network.security = .unprotected)
    (hPartner : plan.owePartner ≠ "") :
    config.OpenHalf plan.network.ssid plan.network.hidden plan.name plan.owePartner where
  interface := by rw [values_interface h, InstancePlan.engineInterface_of_single hSingle]
  ssid := values_ssid h
  visibility := values_visibility h
  unprotected := by
    have hKeys : ∀ key ∈ ["wpa", "wpa_key_mgmt", "rsn_pairwise", "ieee80211w", "wpa_passphrase",
        "sae_password"], key ∈ protectionKeys := by decide
    intro key hMem
    rw [values_protection h (hKeys key hMem), hSecurity]
    rfl
  partner := by rw [values_partner h, if_neg hPartner]

/-- A plan of a hidden network in OWE transition is configured as the companion of its partner. -/
theorem companion_ofPlan (h : ofPlan host options versions plan = .ok config)
    (hSingle : plan.multiLink = false) (hSecurity : plan.network.security = .oweTransition)
    (hHidden : plan.network.hidden = true) (hPartner : plan.owePartner ≠ "") :
    config.Companion plan.network.ssid plan.name plan.owePartner where
  interface := by rw [values_interface h, InstancePlan.engineInterface_of_single hSingle]
  ssid := values_ssid h
  hidden := by
    rw [values_visibility h, hHidden]
    rfl
  keyManagement := by
    rw [values_protection h (by decide), hSecurity]
    rfl
  managementFrames := by
    rw [values_protection h (by decide), hSecurity]
    rfl
  noPassphrase := by
    have hKeys : ∀ key ∈ ["wpa_passphrase", "sae_password"], key ∈ protectionKeys ∧
        key ∉ ["wpa", "rsn_pairwise", "wpa_key_mgmt", "ieee80211w"] := by decide
    have hAmong : Among ["wpa", "rsn_pairwise", "wpa_key_mgmt", "ieee80211w"]
        (oweEntries plan.channel.bands) := by
      simp [oweEntries]
    intro key hMem
    rw [values_protection h (hKeys key hMem).1, hSecurity]
    exact hAmong.valuesOf_eq_nil (hKeys key hMem).2
  partner := by rw [values_partner h, if_neg hPartner]

end

end Config

/-! ## The random name -/

/-- An ASCII letter or digit is one byte in UTF-8. -/
theorem utf8EncodeChar_of_isAlphanumeric {c : Char} (h : isAlphanumeric c = true) :
    String.utf8EncodeChar c = [c.val.toUInt8] := by
  apply String.utf8EncodeChar_eq_singleton
  rw [Char.utf8Size_eq_one_iff]
  have hLast : ∀ last : Char, last.val ≤ 127 → c ≤ last → c.val ≤ 127 :=
    fun last hBound hLe => UInt32.le_trans (Char.le_def.mp hLe) hBound
  unfold isAlphanumeric at h
  simp only [Bool.or_eq_true, Bool.and_eq_true, decide_eq_true_eq] at h
  rcases h with (⟨_, hDigit⟩ | ⟨_, hUpper⟩) | ⟨_, hLower⟩
  · exact hLast '9' (by decide) hDigit
  · exact hLast 'Z' (by decide) hUpper
  · exact hLast 'z' (by decide) hLower

namespace CompanionTag

/-- The name of a companion is a fixed prefix with one byte for each random character after it. -/
theorem ssid_eq (tag : CompanionTag) :
    tag.ssid = Text.utf8Bytes "Owe-" ++ tag.chars.map fun c => c.val.toUInt8 := by
  have hChars : ∀ chars : List Char, chars.all isAlphanumeric = true →
      chars.flatMap String.utf8EncodeChar = chars.map fun c => c.val.toUInt8 := by
    intro chars hAll
    induction chars with
    | nil => rfl
    | cons c rest ih =>
        rw [List.all_cons, Bool.and_eq_true] at hAll
        rw [List.flatMap_cons, utf8EncodeChar_of_isAlphanumeric hAll.1, ih hAll.2]
        rfl
  have hList : (String.ofList tag.chars).toList = tag.chars := String.toList_ofList
  unfold ssid Text.utf8Bytes
  rw [String.toList_append, List.flatMap_append, hList, hChars tag.chars tag.alphanumeric_chars]

theorem length_ssid (tag : CompanionTag) : tag.ssid.length = 12 := by
  have hPrefix : (Text.utf8Bytes "Owe-").length = 4 := by decide
  rw [ssid_eq, List.length_append, List.length_map, hPrefix, tag.length_chars]

end CompanionTag

/-! ## Requests in OWE transition -/

/-- The two plans of a network in OWE transition are for an open network and a hidden one, and each
names the other. -/
theorem Request.pairPlans_oweTransition {network : Network}
    (transition : network.security = .oweTransition) (request : Request) (tag : CompanionTag)
    (first second : ChannelSpec) (firstMember secondMember : String) :
    request.pairPlans network tag first second firstMember secondMember =
      [{ request.memberPlan { network with security := .unprotected } first firstMember with
          owePartner := secondMember },
       { request.memberPlan { network with hidden := true, ssid := tag.ssid } second
          secondMember with owePartner := firstMember }] := by
  unfold pairPlans
  rw [transition]

namespace Service

/-- A network in OWE transition is offered on a bridge by two instances, one open and one hidden
with encryption under a random name of 12 bytes, and the configuration of each names the interface
of the other.  No passphrase makes a difference.  A single access point has no companion. -/
theorem addAccessPoint_oweTransition (service : Service Testbed) (request : Request)
    {network : Network} (tag : CompanionTag) (transition : network.security = .oweTransition) :
    let before := service.platform.host
    let build := Config.ofPlan before.view service.options service.versions
    let result := service.addAccessPoint request network tag
    let after := result.2.platform.host
    (∀ first second, request.channels = [first, second] → request.multiLink = false →
      result.1 = .ok () →
      ∃ firstMember secondMember others openPlan companionPlan openHalf companion,
        before.view.bridgeMembers request.name = .ok (firstMember :: secondMember :: others) ∧
        request.pairPlans network tag first second firstMember secondMember =
          [openPlan, companionPlan] ∧
        build openPlan = .ok openHalf ∧ build companionPlan = .ok companion ∧
        (∀ plan ∈ [openPlan, companionPlan], ∀ passphrase,
          build (plan.withPassphrase passphrase) = build plan) ∧
        after.written = before.written ++
          [openPlan.file service.options openHalf, companionPlan.file service.options companion] ∧
        (secondMember ≠ "" →
          openHalf.OpenHalf network.ssid network.hidden firstMember secondMember) ∧
        (firstMember ≠ "" → companion.Companion tag.ssid secondMember firstMember)) ∧
    (tag.ssid = Text.utf8Bytes "Owe-" ++ tag.chars.map (fun c => c.val.toUInt8) ∧
      tag.ssid.length = 12) ∧
    (∀ passphrase,
      service.addAccessPoint request { network with passphrase := passphrase } tag = result) ∧
    ∀ channel, request.channels = [channel] →
      ∃ config? : Option Config,
        (result.1 = .ok () → config?.isSome = true) ∧
        after.written = before.written ++
          (config?.map ((request.singlePlan network channel).file service.options)).toList ∧
        ∀ config ∈ config?, build (request.singlePlan network channel) = .ok config ∧
          config.values "owe_transition_ifname" = [] := by
  intro before build result after
  have hUnused : Config.writesPassphrase network.security = false := by
    rw [transition]
    rfl
  refine ⟨?_, ⟨tag.ssid_eq, tag.length_ssid⟩, ?_, ?_⟩
  · intro first second hChannels hBridge hOk
    obtain ⟨firstMember, secondMember, others, configs, hMembers, hConfigs, hWritten⟩ :=
      addAccessPoint_pair_written hChannels hBridge hOk
    have hPlans := Request.pairPlans_oweTransition transition request tag first second firstMember
      secondMember
    rw [hPlans] at hConfigs hWritten
    obtain ⟨openHalf, rest, rfl, hOpen, hRest⟩ := List.map_eq_cons_iff.mp hConfigs.symm
    obtain ⟨companion, left, rfl, hCompanion, hLeft⟩ := List.map_eq_cons_iff.mp hRest
    obtain rfl := List.map_eq_nil_iff.mp hLeft
    refine ⟨firstMember, secondMember, others, _, _, openHalf, companion, hMembers, hPlans,
      hOpen.symm, hCompanion.symm, ?_, hWritten, ?_, ?_⟩
    · intro plan hMem passphrase
      rw [← hPlans] at hMem
      exact Config.ofPlan_withPassphrase (Request.unused_of_mem_pairPlans hUnused plan hMem)
        before.view service.options service.versions passphrase
    · intro hPartner
      exact Config.openHalf_ofPlan hOpen.symm hBridge rfl hPartner
    · intro hPartner
      exact Config.companion_ofPlan hCompanion.symm hBridge transition rfl hPartner
  · exact addAccessPoint_passphrase hUnused service request tag
  · intro channel hChannel
    obtain ⟨config?, hBuilt, hOk, hWritten⟩ := addAccessPoint_single_written hChannel
    refine ⟨config?, hOk, hWritten, ?_⟩
    intro config hMem
    have hConfig := hBuilt config hMem
    exact ⟨hConfig, (Config.values_partner hConfig).trans (if_pos rfl)⟩

/-- The two halves of a hidden network on a bridge with the interfaces `a` and `b`. -/
theorem addAccessPoint_oweTransition_on_bridge :
    let network : Network :=
      { ssid := [0x4e, 0x65, 0x74], hidden := true, security := .oweTransition,
        passphrase := "unused" }
    ∃ openHalf companion : Config, openHalf.OpenHalf [0x4e, 0x65, 0x74] true "a" "b" ∧
      companion.Companion Sample.tag.ssid "b" "a" ∧
      ((Sample.service .leaveRunning).addAccessPoint Sample.request network
        Sample.tag).2.platform.host.written.map Prod.snd = [openHalf.render, companion.render] := by
  intro network
  have succeeded : ((Sample.service .leaveRunning).addAccessPoint Sample.request network
      Sample.tag).1 = .ok () := by decide +kernel
  have transition : network.security = .oweTransition := rfl
  obtain ⟨hPair, _⟩ := addAccessPoint_oweTransition (Sample.service .leaveRunning) Sample.request
    Sample.tag transition
  obtain ⟨firstMember, secondMember, others, openPlan, companionPlan, openHalf, companion, hMembers,
    _, _, _, _, hWritten, hOpen, hCompanion⟩ := hPair _ _ rfl rfl succeeded
  cases hMembers
  refine ⟨openHalf, companion, hOpen (by decide), hCompanion (by decide), ?_⟩
  rw [hWritten]
  rfl

end Service

end SoftAp
