import SoftAp.Proofs.EntryKeys

/-!
# The values of a key in a plan

A key may occur more than once in a configuration, and the last of its values is the effective one.
Here all values of a key are told, in order.  Most groups of entries only say how the radio is used,
so there are few groups that the values of any other key can come from.
-/

namespace SoftAp.Config

/-- The values of a key among entries, in order. -/
def valuesOf (key : String) (entries : List Entry) : List String :=
  (entries.filter fun entry => entry.1 == key).map Prod.snd

/-- All values of a key, in order. -/
def values (key : String) (config : Config) : List String :=
  valuesOf key config.entries

section

variable {keys : List String} {entries first second : List Entry} {key value : String}

@[simp] theorem valuesOf_nil (key : String) : valuesOf key [] = [] := rfl

@[simp] theorem valuesOf_append :
    valuesOf key (first ++ second) = valuesOf key first ++ valuesOf key second := by
  unfold valuesOf
  rw [List.filter_append, List.map_append]

@[simp] theorem valuesOf_cons (key : String) (entry : Entry) (entries : List Entry) :
    valuesOf key (entry :: entries) =
      (if entry.1 = key then [entry.2] else []) ++ valuesOf key entries := by
  unfold valuesOf
  by_cases hKey : entry.1 = key
  · simp [hKey]
  · simp [hKey]

@[simp] theorem valuesOf_entryIf (condition : Bool) (key other value : String) :
    valuesOf key (entryIf condition other value) =
      if condition = true ∧ other = key then [value] else [] := by
  cases condition with
  | false => rfl
  | true =>
      rw [entryIf, if_pos rfl, valuesOf_cons, valuesOf_nil, List.append_nil]
      simp

theorem lastValue?_eq_getLast? (key : String) (entries : List Entry) :
    lastValue? key entries = (valuesOf key entries).getLast? := by
  induction entries with
  | nil => rfl
  | cons entry rest ih =>
      obtain ⟨k, v⟩ := entry
      rw [lastValue?, ih, valuesOf_cons, List.getLast?_append]
      cases (valuesOf key rest).getLast? with
      | some later => rfl
      | none =>
          by_cases hKey : k = key
          · rw [if_pos hKey, if_pos hKey]
            rfl
          · rw [if_neg hKey, if_neg hKey]
            rfl

/-- The effective value of a key is the last one. -/
theorem get?_eq_getLast?_values (key : String) (config : Config) :
    config.get? key = (config.values key).getLast? :=
  lastValue?_eq_getLast? key config.entries

/-- A key that none of the entries has is without values. -/
theorem Among.valuesOf_eq_nil (h : Among keys entries) (hKey : key ∉ keys) :
    valuesOf key entries = [] := by
  unfold valuesOf
  rw [List.map_eq_nil_iff, List.filter_eq_nil_iff]
  intro entry hMem hEq
  exact hKey (beq_iff_eq.mp hEq ▸ h entry hMem)

end

/-- The keys that say how the radio is used and what the instance does for its clients. -/
def radioKeys : List String :=
  ["channel", "acs_exclude_dfs", "freqlist", "op_class", "ieee80211n", "ieee80211ac", "ieee80211ax",
   "he_su_beamformer", "he_su_beamformee", "he_mu_beamformer", "he_twt_required", "hw_mode",
   "ht_capab", "eht_oper_chwidth", "he_oper_chwidth", "vht_oper_chwidth", "wowlan_triggers",
   "interworking", "access_network_type", "enable_edmg", "edmg_channel", "vendor_elements",
   "ap_isolate"]

/-- The keys that say what an instance is called, whether it can be seen and what it belongs to. -/
def memberKeys : List String :=
  ["interface", "driver", "ctrl_interface", "ssid2", "ignore_broadcast_ssid", "bridge",
   "owe_transition_ifname"]

/-- A configuration has the known keys, and those of its overlay and of its entries of 802.11be. -/
theorem among_planEntries {options : Options} {versions : Versions} {plan : InstancePlan}
    {overlay eht : List Entry} {mode : String} {front keys : List String}
    (hOverlay : Among front overlay) (hEht : Among keys eht) :
    Among (front ++ (planKeys ++ keys)) (planEntries options versions plan overlay eht mode) := by
  have hPlan : ∀ {own : List String} {entries : List Entry}, own ⊆ planKeys →
      Drawn own entries → Among (front ++ (planKeys ++ keys)) entries := by
    intro own entries hOwn hEntries
    apply hEntries.among.mono
    intro key hMem
    exact List.mem_append_right _ (List.mem_append_left _ (hOwn hMem))
  have hOverlay' : Among (front ++ (planKeys ++ keys)) overlay :=
    hOverlay.mono (List.subset_append_left _ _)
  have hEht' : Among (front ++ (planKeys ++ keys)) eht := by
    apply hEht.mono
    intro key hMem
    exact List.mem_append_right _ (List.mem_append_right _ hMem)
  rw [planEntries_eq, planHead]
  simp only [among_append]
  refine ⟨⟨⟨⟨⟨⟨⟨⟨⟨⟨⟨hOverlay', ?_⟩, ?_⟩, ?_⟩, ?_⟩, hEht'⟩, ?_⟩, ?_⟩, ?_⟩, ?_⟩, ?_⟩, ?_, ?_⟩
  · exact hPlan (by decide) (drawn_identityEntries options plan)
  · exact hPlan (by decide) (drawn_channelEntries _ _)
  · exact hPlan (by decide) (drawn_modeEntries plan.capabilities)
  · exact hPlan (by decide) (drawn_heEntries _ _)
  · exact hPlan (by decide) (drawn_hardwareMode mode)
  · exact hPlan (by decide) (drawn_widthEntries _ _)
  · exact hPlan (by decide) (drawn_visibilityEntries _)
  · exact hPlan (by decide) (drawn_meteringEntries _)
  · exact hPlan (by decide) (drawn_protectionEntries _ _ _ _)
  · exact hPlan (by decide) (drawn_groupEntries plan)
  · exact hPlan (by decide) (drawn_planTail versions plan)

section

variable {host : Host} {options : Options} {versions : Versions} {plan : InstancePlan}
  {config : Config} {key : String}

/-- The values of a key that is not about the radio are told from the identity of the instance, its
visibility, its protection and its group. -/
theorem values_ofPlan (h : ofPlan host options versions plan = .ok config)
    (hKey : key ∉ overlayableKeys ++ radioKeys ++ ehtKeys) :
    config.values key =
      valuesOf key (identityEntries options plan) ++
        (valuesOf key [("ignore_broadcast_ssid", flag plan.network.hidden)] ++
          (valuesOf key (protectionEntries plan.network.security plan.channel.bands
              plan.capabilities.be plan.network.passphrase) ++
            valuesOf key (groupEntries plan))) := by
  obtain ⟨mode, eht, overlay, _, hEht, hOverlay, rfl⟩ := ofPlan_eq_ok h
  simp only [List.mem_append, not_or] at hKey
  obtain ⟨⟨hOverlayKey, hRadioKey⟩, hEhtKey⟩ := hKey
  have hNone : ∀ {keys : List String} {entries : List Entry}, keys ⊆ radioKeys →
      Drawn keys entries → valuesOf key entries = [] :=
    fun hRadio hDrawn => (hDrawn.among.mono hRadio).valuesOf_eq_nil hRadioKey
  have hWake : Drawn ["wowlan_triggers"] [("wowlan_triggers", "any")] := List.Subperm.refl _
  have hSplit : [("ignore_broadcast_ssid", flag plan.network.hidden), ("wowlan_triggers", "any")] =
      [("ignore_broadcast_ssid", flag plan.network.hidden)] ++ [("wowlan_triggers", "any")] := rfl
  show valuesOf key (planEntries options versions plan overlay eht mode) = _
  rw [planEntries_eq, planHead, hSplit]
  simp only [valuesOf_append, (keyed_overlayEntries hOverlay).among.valuesOf_eq_nil hOverlayKey,
    (drawn_ehtEntries hEht).among.valuesOf_eq_nil hEhtKey, hNone (by decide) hWake,
    hNone (by decide) (drawn_hardwareMode mode), hNone (by decide) (drawn_channelEntries _ _),
    hNone (by decide) (drawn_modeEntries _), hNone (by decide) (drawn_heEntries _ _),
    hNone (by decide) (drawn_widthEntries _ _), hNone (by decide) (drawn_meteringEntries _),
    hNone (by decide) (drawn_planTail _ _), List.append_nil, List.nil_append, List.append_assoc]

/-- The values of a key of protection are those of the protection of the network. -/
theorem values_protection (h : ofPlan host options versions plan = .ok config)
    (hKey : key ∈ protectionKeys) :
    config.values key =
      valuesOf key (protectionEntries plan.network.security plan.channel.bands
        plan.capabilities.be plan.network.passphrase) := by
  have hForeign : ∀ key ∈ protectionKeys, key ∉ overlayableKeys ++ radioKeys ++ ehtKeys ∧
      key ∉ identityKeys ∧ key ∉ ["ignore_broadcast_ssid"] ∧ key ∉ groupKeys := by decide
  obtain ⟨hOutside, hIdentity, hVisibility, hGroup⟩ := hForeign key hKey
  have hFlag : Among ["ignore_broadcast_ssid"]
      [("ignore_broadcast_ssid", flag plan.network.hidden)] := by
    simp
  rw [values_ofPlan h hOutside, (drawn_identityEntries _ _).among.valuesOf_eq_nil hIdentity,
    hFlag.valuesOf_eq_nil hVisibility, (drawn_groupEntries _).among.valuesOf_eq_nil hGroup,
    List.nil_append, List.nil_append, List.append_nil]

/-- The values of a key of an instance are those of its identity, its visibility and its group. -/
theorem values_member (h : ofPlan host options versions plan = .ok config)
    (hKey : key ∈ memberKeys) :
    config.values key =
      valuesOf key (identityEntries options plan) ++
        (valuesOf key [("ignore_broadcast_ssid", flag plan.network.hidden)] ++
          valuesOf key (groupEntries plan)) := by
  have hForeign : ∀ key ∈ memberKeys, key ∉ overlayableKeys ++ radioKeys ++ ehtKeys ∧
      key ∉ protectionKeys := by decide
  obtain ⟨hOutside, hProtection⟩ := hForeign key hKey
  rw [values_ofPlan h hOutside, (drawn_protectionEntries _ _ _ _).among.valuesOf_eq_nil hProtection,
    List.nil_append]

theorem values_interface (h : ofPlan host options versions plan = .ok config) :
    config.values "interface" = [plan.engineInterface] := by
  rw [values_member h (by decide)]
  simp [identityEntries, groupEntries]

theorem values_ssid (h : ofPlan host options versions plan = .ok config) :
    config.values "ssid2" = [Text.hex plan.network.ssid] := by
  rw [values_member h (by decide)]
  simp [identityEntries, groupEntries]

theorem values_visibility (h : ofPlan host options versions plan = .ok config) :
    config.values "ignore_broadcast_ssid" = [flag plan.network.hidden] := by
  rw [values_member h (by decide)]
  simp [identityEntries, groupEntries]

theorem values_partner (h : ofPlan host options versions plan = .ok config) :
    config.values "owe_transition_ifname" =
      if plan.owePartner = "" then [] else [plan.owePartner] := by
  rw [values_member h (by decide)]
  simp [identityEntries, groupEntries]

end

end SoftAp.Config
