import SoftAp.Config.Build
import SoftAp.Proofs.RenderedText

/-!
# The entries of a plan

The keys of a configuration are known beforehand, group by group, and no value spans lines unless a
text of the request or the options does.  So the engine reads back what was meant.
-/

namespace SoftAp

/-- Whether the entries of a protection hold the passphrase. -/
def Config.writesPassphrase (security : Security) : Bool :=
  usesPsk security || security = .sae

/-- No text of a plan that goes into its configuration as it is spans lines. -/
structure InstancePlan.OnOneLine (plan : InstancePlan) : Prop where
  name : Text.SingleLine plan.name
  group : Text.SingleLine plan.group
  owePartner : Text.SingleLine plan.owePartner
  passphrase : Config.writesPassphrase plan.network.security = true →
    Text.SingleLine plan.network.passphrase

/-- The path of a control socket is made of its directory and the name of its instance. -/
theorem Path.singleLine_controlSocket_iff {directory name : String} :
    Text.SingleLine (controlSocket directory name) ↔
      Text.SingleLine directory ∧ Text.SingleLine name := by
  have hName : Text.SingleLine ("ctrl_" ++ name) ↔ Text.SingleLine name := by
    rw [Text.singleLine_append_iff]
    exact and_iff_right (by decide)
  unfold controlSocket join
  split
  · next hHead =>
    -- the last step is never absolute, for its name begins with a letter
    rw [String.toList_append] at hHead
    cases hHead
  · split
    · next hEmpty =>
      have hDirectory : directory = "" := by
        rw [← String.ofList_toList (s := directory), List.getLast?_eq_none_iff.mp hEmpty]
      rw [hDirectory, hName]
      exact (and_iff_right (by decide)).symm
    · rw [Text.singleLine_append_iff, hName]
    · rw [Text.singleLine_append_iff, Text.singleLine_append_iff, hName]
      exact and_congr_left' (and_iff_left (by decide))

namespace Config

/-- The keys that every plan may set, apart from those of 802.11be. -/
def planKeys : List String :=
  ["interface", "driver", "ctrl_interface", "ssid2", "channel", "acs_exclude_dfs", "freqlist",
   "op_class", "ieee80211n", "ieee80211ac", "ieee80211ax", "he_su_beamformer", "he_su_beamformee",
   "he_mu_beamformer", "he_twt_required", "hw_mode", "ht_capab", "eht_oper_chwidth",
   "he_oper_chwidth", "vht_oper_chwidth", "ignore_broadcast_ssid", "wowlan_triggers",
   "interworking", "access_network_type", "wpa", "wpa_pairwise", "wpa_passphrase", "rsn_pairwise",
   "wpa_key_mgmt", "ieee80211w", "sae_require_mfp", "sae_pwe", "sae_password", "bridge",
   "owe_transition_ifname", "enable_edmg", "edmg_channel", "vendor_elements", "ap_isolate"]

/-- The keys of a plan that do not name what its instance belongs to. -/
def ownKeys : List String :=
  planKeys.filter fun key => !(["bridge", "owe_transition_ifname"].contains key)

theorem ownKeys_subset : ownKeys ⊆ planKeys := by
  intro key hMem
  exact (List.mem_filter.mp hMem).1

/-- The keys of 802.11be. -/
def ehtKeys : List String :=
  ["ieee80211be", "mld_addr", "bssid", "mld_ap"]

/-- The keys of some entries are among others, and no value spans lines. -/
def Keyed (keys : List String) (entries : List Entry) : Prop :=
  ∀ entry ∈ entries, entry.1 ∈ keys ∧ Text.SingleLine entry.2

section

variable {keys : List String} {entries first second : List Entry} {key value : String}

@[simp] theorem keyed_nil : Keyed keys [] := by
  intro entry hMem
  cases hMem

@[simp] theorem keyed_cons :
    Keyed keys ((key, value) :: entries) ↔
      (key ∈ keys ∧ Text.SingleLine value) ∧ Keyed keys entries := by
  unfold Keyed
  rw [List.forall_mem_cons]

@[simp] theorem keyed_append :
    Keyed keys (first ++ second) ↔ Keyed keys first ∧ Keyed keys second := by
  unfold Keyed
  exact List.forall_mem_append

theorem keyed_entryIf {condition : Bool}
    (h : condition = true → key ∈ keys ∧ Text.SingleLine value) :
    Keyed keys (entryIf condition key value) := by
  cases condition with
  | false => exact keyed_nil
  | true => exact keyed_cons.mpr ⟨h rfl, keyed_nil⟩

theorem Keyed.mono {more : List String} (h : Keyed keys entries) (hKeys : keys ⊆ more) :
    Keyed more entries := by
  intro entry hMem
  exact ⟨hKeys (h entry hMem).1, (h entry hMem).2⟩

/-- A key that none of the entries has is without a value. -/
theorem Keyed.lastValue?_eq_none (h : Keyed keys entries) (hKey : key ∉ keys) :
    lastValue? key entries = none := by
  induction entries with
  | nil => rfl
  | cons entry rest ih =>
      obtain ⟨k, v⟩ := entry
      obtain ⟨⟨hMem, _⟩, hRest⟩ := keyed_cons.mp h
      have hNe : k ≠ key := fun heq => hKey (heq ▸ hMem)
      rw [lastValue?, ih hRest]
      exact if_neg hNe

end

/-! ## The groups of entries -/

theorem singleLine_flag (on : Bool) : Text.SingleLine (flag on) := by
  cases on <;> decide

theorem singleLine_widthCode (on : Bool) (width : FixedWidth) :
    Text.SingleLine (widthCode on width) :=
  Text.singleLine_toString _

theorem singleLine_rangeText (range : FrequencyRange) : Text.SingleLine (rangeText range) := by
  unfold rangeText
  split
  · have hHyphen : Text.SingleLine "-" := by decide
    exact ((Text.singleLine_decimal _).append hHyphen).append (Text.singleLine_decimal _)
  · exact Text.singleLine_decimal _

theorem keyed_channelEntries (capabilities : Capabilities) (spec : ChannelSpec) :
    Keyed ownKeys (channelEntries capabilities spec) := by
  unfold channelEntries
  split
  · have hList : Text.SingleLine (frequencyList spec.ranges) := by
      apply Text.singleLine_intercalate (by decide)
      intro piece hMem
      obtain ⟨range, _, rfl⟩ := List.mem_map.mp hMem
      exact singleLine_rangeText range
    simp +decide [ownKeys, planKeys, singleLine_flag, hList]
  · rw [keyed_cons, keyed_cons]
    exact ⟨⟨by decide, Text.singleLine_decimal _⟩, ⟨by decide, Text.singleLine_toString _⟩,
      keyed_nil⟩

theorem keyed_heEntries (capabilities : Capabilities) (bands : Bands) :
    Keyed ownKeys (heEntries capabilities bands) := by
  unfold heEntries
  split
  · simp +decide [ownKeys, planKeys, singleLine_flag]
  · simp +decide [ownKeys, planKeys]

theorem keyed_widthEntries (capabilities : Capabilities) (bands : Bands) :
    Keyed ownKeys (widthEntries capabilities bands) := by
  unfold widthEntries
  split
  · next width hWidth =>
    unfold fixedWidthEntries
    simp only [keyed_append]
    refine ⟨⟨keyed_entryIf ?_, ?_⟩, keyed_entryIf ?_⟩
    · intro _
      exact ⟨by decide, by decide⟩
    · simp [ownKeys, planKeys, singleLine_widthCode]
    · intro _
      exact ⟨by decide, Text.singleLine_toString _⟩
  · split
    · exact keyed_nil
    · unfold openWidthEntries
      simp only [keyed_append]
      refine ⟨⟨⟨⟨keyed_entryIf ?_, keyed_entryIf ?_⟩, keyed_entryIf ?_⟩, keyed_entryIf ?_⟩,
        keyed_entryIf ?_⟩
      · intro _
        exact ⟨by decide, by decide⟩
      · intro _
        exact ⟨by decide, by decide⟩
      · intro _
        refine ⟨by decide, ?_⟩
        cases capabilities.be <;> decide
      · intro _
        exact ⟨by decide, by decide⟩
      · intro _
        exact ⟨by decide, by decide⟩

theorem keyed_meteringEntries (network : Network) :
    Keyed ownKeys (meteringEntries network) := by
  unfold meteringEntries
  split <;> simp +decide [ownKeys, planKeys]

theorem singleLine_pairwiseCipher (bands : Bands) : Text.SingleLine (pairwiseCipher bands) := by
  unfold pairwiseCipher
  split <;> decide

theorem keyed_saeEntries {cipher passphrase : String} (bands : Bands) (be : Bool)
    (hCipher : Text.SingleLine cipher) (hPassphrase : Text.SingleLine passphrase) :
    Keyed ownKeys (saeEntries cipher bands be passphrase) := by
  have hManagement : Text.SingleLine (saeKeyManagement be) := by
    cases be <;> decide
  have hElement : Text.SingleLine (saePasswordElement bands) := by
    unfold saePasswordElement
    split <;> decide
  simp +decide [saeEntries, ownKeys, planKeys, hCipher, hPassphrase, hManagement, hElement]

theorem keyed_protectionEntries (security : Security) (bands : Bands) (be : Bool)
    {passphrase : String} (h : writesPassphrase security = true → Text.SingleLine passphrase) :
    Keyed ownKeys (protectionEntries security bands be passphrase) := by
  have hCipher := singleLine_pairwiseCipher bands
  have hOwe : Keyed ownKeys (oweEntries bands) := by
    simp +decide [oweEntries, ownKeys, planKeys, hCipher]
  cases security with
  | unprotected => exact keyed_nil
  | wpa =>
      have hPairwise : Text.SingleLine (if bands.isOnly .ghz60 then "GCMP" else "TKIP CCMP") := by
        split <;> decide
      simp +decide [protectionEntries, ownKeys, planKeys, h rfl, hPairwise]
  | wpa2 => simp +decide [protectionEntries, ownKeys, planKeys, h rfl, hCipher]
  | saeTransition =>
      show Keyed ownKeys (if bands.has .ghz6 then saeEntries "CCMP" bands be passphrase
        else saeTransitionEntries bands be passphrase)
      split
      · exact keyed_saeEntries bands be (by decide) (h rfl)
      · have hManagement : Text.SingleLine ("WPA-PSK " ++ saeKeyManagement be) := by
          cases be <;> decide
        simp +decide [saeTransitionEntries, ownKeys, planKeys, h rfl, hCipher, hManagement]
  | sae => exact keyed_saeEntries bands be hCipher (h rfl)
  | oweTransition => exact hOwe
  | owe => exact hOwe

theorem keyed_edmgEntries (capabilities : Capabilities) (spec : ChannelSpec) :
    Keyed ownKeys (edmgEntries capabilities spec) := by
  unfold edmgEntries
  split
  · simp +decide [ownKeys, planKeys, Text.singleLine_decimal]
  · exact keyed_nil

/-- The entries of 802.11be do not name a multi-link device if the hardware address of the interface
is unknown. -/
theorem keyed_ehtEntries {host : Host} {versions : Versions} {plan : InstancePlan}
    {eht : List Entry} (h : ehtEntries host versions plan = .ok eht) :
    Keyed ehtKeys eht ∧
      ((∀ address, host.macAddress plan.engineInterface ≠ .ok address) →
        Keyed ["ieee80211be"] eht) := by
  unfold ehtEntries at h
  split at h
  · cases h
    exact ⟨by simp +decide [ehtKeys], fun _ => by simp +decide⟩
  · split at h
    · split at h
      · cases h
      · next address hAddress =>
        cases h
        have hText : Text.SingleLine address.text := by
          apply Text.singleLine_intercalate (by decide)
          intro piece hMem
          obtain ⟨byte, _, rfl⟩ := List.mem_map.mp hMem
          exact Text.singleLine_hex [byte]
        refine ⟨?_, fun hUnknown => absurd hAddress (hUnknown address)⟩
        cases plan.multiLink <;> simp +decide [ehtKeys, hText]
    · cases h
      exact ⟨by simp +decide [ehtKeys], fun _ => by simp +decide⟩

/-- An overlay contributes keys of its fixed list only. -/
theorem keyed_overlayEntries {host : Host} {options : Options} {network : Network}
    {overlay : List Entry} (h : overlayEntries host options network = .ok overlay) :
    Keyed overlayableKeys overlay := by
  unfold overlayEntries at h
  split at h
  · cases h
    exact keyed_nil
  · split at h
    · cases h
    · cases h
      exact keyed_nil
    · next text hText =>
      cases h
      intro entry hMem
      obtain ⟨hParsed, hKey⟩ := List.mem_filter.mp hMem
      exact ⟨List.contains_iff_mem.mp hKey, KeyTable.singleLine_of_mem_parse hParsed⟩

theorem hardwareMode_singleLine {bands : Bands} {mode : String}
    (h : hardwareMode bands = .ok mode) : Text.SingleLine mode := by
  unfold hardwareMode hardwareMode? at h
  split at h
  · next found hFound =>
    cases h
    split at hFound
    · cases hFound
      decide
    · split at hFound
      · cases hFound
        split <;> decide
      · split at hFound
        · cases hFound
          decide
        · cases hFound
  · cases h

/-! ## The whole configuration -/

/-- The entries of a plan in front of those that name what its instance belongs to. -/
def planHead (options : Options) (plan : InstancePlan) (overlay eht : List Entry)
    (mode : String) : List Entry :=
  overlay ++
    identityEntries options plan ++
    channelEntries plan.capabilities plan.channel ++
    [("ieee80211n", flag plan.capabilities.n), ("ieee80211ac", flag plan.capabilities.ac)] ++
    heEntries plan.capabilities plan.channel.bands ++
    eht ++
    [("hw_mode", mode)] ++
    widthEntries plan.capabilities plan.channel.bands ++
    [("ignore_broadcast_ssid", flag plan.network.hidden), ("wowlan_triggers", "any")] ++
    meteringEntries plan.network ++
    protectionEntries plan.network.security plan.channel.bands plan.capabilities.be
      plan.network.passphrase

/-- The entries of a plan behind those that name what its instance belongs to. -/
def planTail (versions : Versions) (plan : InstancePlan) : List Entry :=
  edmgEntries plan.capabilities plan.channel ++
    entryIf (!plan.network.vendorElements.isEmpty) "vendor_elements"
      (Text.hex plan.network.vendorElements) ++
    [("ap_isolate", flag (versions.serviceAtLeast 3 && plan.network.isolated))]

theorem planEntries_eq (options : Options) (versions : Versions) (plan : InstancePlan)
    (overlay eht : List Entry) (mode : String) :
    planEntries options versions plan overlay eht mode =
      planHead options plan overlay eht mode ++ (groupEntries plan ++ planTail versions plan) := by
  unfold planEntries planHead planTail
  simp only [List.append_assoc]

theorem keyed_planHead {options : Options} {plan : InstancePlan} {overlay eht : List Entry}
    {mode : String} {keys : List String} (hPlan : plan.OnOneLine)
    (hOptions : Text.SingleLine options.controlDirectory)
    (hOverlay : Keyed overlayableKeys overlay) (hEht : Keyed keys eht)
    (hMode : Text.SingleLine mode) :
    Keyed (overlayableKeys ++ ownKeys ++ keys) (planHead options plan overlay eht mode) := by
  have hOverlay' : Keyed (overlayableKeys ++ ownKeys ++ keys) overlay :=
    hOverlay.mono fun key hMem => by simp [hMem]
  have hEht' : Keyed (overlayableKeys ++ ownKeys ++ keys) eht :=
    hEht.mono fun key hMem => by simp [hMem]
  have hInside : ∀ entries, Keyed ownKeys entries →
      Keyed (overlayableKeys ++ ownKeys ++ keys) entries := by
    intro entries hEntries
    apply hEntries.mono
    intro key hMem
    simp [hMem]
  have hInterface : Text.SingleLine plan.engineInterface := by
    unfold InstancePlan.engineInterface
    split
    · exact hPlan.group
    · exact hPlan.name
  have hSocket : Text.SingleLine (Path.controlSocket options.controlDirectory plan.name) :=
    Path.singleLine_controlSocket_iff.mpr ⟨hOptions, hPlan.name⟩
  have hIdentity : Keyed ownKeys (identityEntries options plan) := by
    have hSsid := Text.singleLine_hex plan.network.ssid
    simp +decide [identityEntries, ownKeys, planKeys, hInterface, hSocket, hSsid]
  -- the entries that stand between the groups come in pairs or alone
  have hPair : ∀ first second : String, first ∈ ownKeys → second ∈ ownKeys →
      ∀ value value' : String, Text.SingleLine value → Text.SingleLine value' →
        Keyed ownKeys [(first, value), (second, value')] := by
    intro first second hFirst hSecond value value' hValue hValue'
    simp [hFirst, hSecond, hValue, hValue']
  unfold planHead
  simp only [keyed_append]
  refine ⟨⟨⟨⟨⟨⟨⟨⟨⟨⟨hOverlay', ?_⟩, ?_⟩, ?_⟩, ?_⟩, hEht'⟩, ?_⟩, ?_⟩, ?_⟩, ?_⟩, ?_⟩
  · exact hInside _ hIdentity
  · exact hInside _ (keyed_channelEntries _ _)
  · exact hInside _ (hPair _ _ (by decide) (by decide) _ _ (singleLine_flag _) (singleLine_flag _))
  · exact hInside _ (keyed_heEntries _ _)
  · exact hInside _ (keyed_cons.mpr ⟨⟨by decide, hMode⟩, keyed_nil⟩)
  · exact hInside _ (keyed_widthEntries _ _)
  · exact hInside _ (hPair _ _ (by decide) (by decide) _ _ (singleLine_flag _) (by decide))
  · exact hInside _ (keyed_meteringEntries _)
  · exact hInside _ (keyed_protectionEntries _ _ _ hPlan.passphrase)

theorem keyed_planTail (versions : Versions) (plan : InstancePlan) :
    Keyed ownKeys (planTail versions plan) := by
  unfold planTail
  rw [keyed_append, keyed_append]
  refine ⟨⟨keyed_edmgEntries _ _, keyed_entryIf fun _ => ⟨by decide, Text.singleLine_hex _⟩⟩, ?_⟩
  exact keyed_cons.mpr ⟨⟨by decide, singleLine_flag _⟩, keyed_nil⟩

theorem keyed_groupEntries {plan : InstancePlan} (hGroup : Text.SingleLine plan.group)
    (hPartner : Text.SingleLine plan.owePartner) :
    Keyed ["bridge", "owe_transition_ifname"] (groupEntries plan) := by
  unfold groupEntries
  rw [keyed_append]
  exact ⟨keyed_entryIf fun _ => ⟨by decide, hGroup⟩,
    keyed_entryIf fun _ => ⟨by decide, hPartner⟩⟩

/-- The entries of a plan have the known keys, and those that its other parts bring along. -/
theorem keyed_planEntries {options : Options} {plan : InstancePlan} {overlay eht : List Entry}
    {mode : String} {keys : List String} (versions : Versions) (hPlan : plan.OnOneLine)
    (hOptions : Text.SingleLine options.controlDirectory)
    (hOverlay : Keyed overlayableKeys overlay) (hEht : Keyed keys eht)
    (hMode : Text.SingleLine mode) :
    Keyed (overlayableKeys ++ planKeys ++ keys)
      (planEntries options versions plan overlay eht mode) := by
  have hInside : ∀ more ⊆ planKeys, ∀ entries, Keyed more entries →
      Keyed (overlayableKeys ++ planKeys ++ keys) entries := by
    intro more hMore entries hEntries
    apply hEntries.mono
    intro key hMem
    simp [hMore hMem]
  have hHead : overlayableKeys ++ ownKeys ++ keys ⊆ overlayableKeys ++ planKeys ++ keys := by
    intro key hMem
    simp only [List.mem_append] at hMem ⊢
    exact hMem.imp_left (Or.imp_right fun hOwn => ownKeys_subset hOwn)
  rw [planEntries_eq, keyed_append, keyed_append]
  exact ⟨(keyed_planHead hPlan hOptions hOverlay hEht hMode).mono hHead,
    hInside _ (by decide) _ (keyed_groupEntries hPlan.group hPlan.owePartner),
    hInside _ ownKeys_subset _ (keyed_planTail versions plan)⟩

/-- Every key that a configuration can have is read back as it is written. -/
theorem cleanKey_of_mem {key : String} (h : key ∈ overlayableKeys ++ planKeys ++ ehtKeys) :
    CleanKey key := by
  have hAll : ∀ key ∈ overlayableKeys ++ planKeys ++ ehtKeys,
      key.toList ≠ [] ∧ key.toList.all isKeyChar = true := by decide +kernel
  exact cleanKey_of_chars (hAll key h).1 (hAll key h).2

/-- Checks that follow each other all go well if the last one does. -/
theorem bind_eq_ok {ε α β : Type} {check : Except ε α} {next : α → Except ε β} {value : β}
    (h : (check >>= next) = .ok value) :
    ∃ first, check = .ok first ∧ next first = .ok value := by
  cases check with
  | error refusal => cases h
  | ok first => exact ⟨first, rfl, h⟩

/-- A configuration is made of the entries of its plan. -/
theorem ofPlan_eq_ok {host : Host} {options : Options} {versions : Versions}
    {plan : InstancePlan} {config : Config} (h : ofPlan host options versions plan = .ok config) :
    ∃ mode eht overlay,
      hardwareMode plan.channel.bands = .ok mode ∧
      ehtEntries host versions plan = .ok eht ∧
      overlayEntries host options plan.network = .ok overlay ∧
      config = ⟨planEntries options versions plan overlay eht mode⟩ := by
  unfold ofPlan at h
  obtain ⟨_, hSsid, h⟩ := bind_eq_ok h
  obtain ⟨_, hPassphrase, h⟩ := bind_eq_ok h
  obtain ⟨mode, hMode, h⟩ := bind_eq_ok h
  obtain ⟨eht, hEht, h⟩ := bind_eq_ok h
  obtain ⟨overlay, hOverlay, h⟩ := bind_eq_ok h
  exact ⟨mode, eht, overlay, hMode, hEht, hOverlay, (Except.ok.inj h).symm⟩

section

variable {host : Host} {options : Options} {versions : Versions} {plan : InstancePlan}
  {config : Config}

/-- The entries of a configuration are read back as they are written. -/
theorem cleanEntries_ofPlan (h : ofPlan host options versions plan = .ok config)
    (hPlan : plan.OnOneLine) (hOptions : Text.SingleLine options.controlDirectory) :
    CleanEntries config.entries := by
  obtain ⟨mode, eht, overlay, hMode, hEht, hOverlay, rfl⟩ := ofPlan_eq_ok h
  have hKeyed := keyed_planEntries versions hPlan hOptions (keyed_overlayEntries hOverlay)
    (keyed_ehtEntries hEht).1 (hardwareMode_singleLine hMode)
  intro entry hMem
  exact ⟨cleanKey_of_mem (hKeyed entry hMem).1, (hKeyed entry hMem).2⟩

/-- Without a hardware address no instance is configured as a multi-link device. -/
theorem get?_mldAp_ofPlan (h : ofPlan host options versions plan = .ok config)
    (hPlan : plan.OnOneLine) (hOptions : Text.SingleLine options.controlDirectory)
    (hUnknown : ∀ address, host.macAddress plan.engineInterface ≠ .ok address) :
    config.get? "mld_ap" = none := by
  obtain ⟨mode, eht, overlay, hMode, hEht, hOverlay, rfl⟩ := ofPlan_eq_ok h
  have hKeyed := keyed_planEntries versions hPlan hOptions (keyed_overlayEntries hOverlay)
    ((keyed_ehtEntries hEht).2 hUnknown) (hardwareMode_singleLine hMode)
  exact hKeyed.lastValue?_eq_none (by decide +kernel)

end

end Config

end SoftAp
