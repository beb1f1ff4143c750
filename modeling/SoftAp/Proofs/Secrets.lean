import Mathlib.Data.List.Forall2
import SoftAp.Proofs.ConfigLines
import SoftAp.Proofs.PlanValues
import SoftAp.Proofs.UnusedPassphrase

/-!
# Where the name and the passphrase of a network go

Two plans that differ only in the name and the passphrase of their network are configured alike.
The name goes to one entry, as hexadecimal text, and the passphrase to those of the protection that
are meant for it.  No other entry depends on either of them, nor does the order of the entries, and
a protection that has no use for a passphrase does not even check it.
-/

namespace SoftAp

/-! ## Hexadecimal text -/

namespace Text

/-- The bytes of a hexadecimal text. -/
def bytesOfHex? : List Char → Option (List UInt8)
  | [] => some []
  | [_] => none
  | high :: low :: rest => do return (← byteOfHex? [high, low]) :: (← bytesOfHex? rest)

theorem hexDigit?_digitChar {n : Nat} (h : n < 16) : hexDigit? (Nat.digitChar n) = some n := by
  have hAll : ∀ n < 16, hexDigit? (Nat.digitChar n) = some n := by decide
  exact hAll n h

theorem byteOfHex?_hexByte (b : UInt8) : byteOfHex? (hexByte b) = some b := by
  have hSize : b.toNat < 256 := b.toNat_lt
  show (do return UInt8.ofNat (16 * (← hexDigit? (Nat.digitChar (b.toNat / 16))) +
    (← hexDigit? (Nat.digitChar (b.toNat % 16))))) = some b
  rw [hexDigit?_digitChar (by omega), hexDigit?_digitChar (by omega)]
  show some (UInt8.ofNat (16 * (b.toNat / 16) + b.toNat % 16)) = some b
  rw [Nat.div_add_mod, UInt8.ofNat_toNat]

/-- A text of bytes is read back as these bytes. -/
theorem bytesOfHex?_hex (bytes : List UInt8) : bytesOfHex? (hex bytes).toList = some bytes := by
  unfold hex
  rw [String.toList_ofList]
  induction bytes with
  | nil => rfl
  | cons b rest ih =>
      show (do return (← byteOfHex? (hexByte b)) :: (← bytesOfHex? (rest.flatMap hexByte))) = _
      rw [byteOfHex?_hexByte, ih]
      rfl

theorem hex_inj {first second : List UInt8} : hex first = hex second ↔ first = second := by
  constructor
  · intro hSame
    have hRead := bytesOfHex?_hex first
    rw [hSame, bytesOfHex?_hex] at hRead
    exact (Option.some.inj hRead).symm
  · rintro rfl
    rfl

end Text

/-- A plan whose network has another name and another passphrase. -/
def InstancePlan.withSecrets (ssid : List UInt8) (passphrase : String) (plan : InstancePlan) :
    InstancePlan :=
  { plan with network := { plan.network with ssid := ssid, passphrase := passphrase } }

namespace Config

/-- The keys whose values are the passphrase of a network. -/
def passphraseKeys : List String :=
  ["wpa_passphrase", "sae_password"]

/-- Two entries that say the same about two networks: one of them has its own name or its own
passphrase where the other has its, and all else is equal. -/
inductive Alike (first second : Network) : Entry → Entry → Prop
  | same {key : String} (value : String) (other : key ∉ "ssid2" :: passphraseKeys) :
      Alike first second (key, value) (key, value)
  | name : Alike first second ("ssid2", Text.hex first.ssid) ("ssid2", Text.hex second.ssid)
  | passphrase {key : String} (own : key ∈ passphraseKeys) :
      Alike first second (key, first.passphrase) (key, second.passphrase)

/-- Entries of two networks that say the same, one by one and in the same order. -/
def AllAlike (first second : Network) (entries others : List Entry) : Prop :=
  List.Forall₂ (Alike first second) entries others

/-- Two configurations that differ only in the names and the passphrases of two networks. -/
structure KeptApart (first second : Network) (config other : Config) : Prop where
  /-- The keys stand in the same order. -/
  keys : config.entries.map Prod.fst = other.entries.map Prod.fst
  /-- Every entry says the same about its own network. -/
  entries : AllAlike first second config.entries other.entries
  /-- The name has one entry. -/
  name : config.values "ssid2" = [Text.hex first.ssid]
  otherName : other.values "ssid2" = [Text.hex second.ssid]
  /-- Different names are written differently. -/
  names : config.get? "ssid2" = other.get? "ssid2" ↔ first.ssid = second.ssid

section

variable {first second : Network} {entries others more more' : List Entry} {keys : List String}

theorem Alike.key_eq {entry other : Entry} (h : Alike first second entry other) :
    entry.1 = other.1 := by
  cases h <;> rfl

theorem AllAlike.keys_eq (h : AllAlike first second entries others) :
    entries.map Prod.fst = others.map Prod.fst := by
  induction h with
  | nil => rfl
  | cons hEntry _ ih => rw [List.map_cons, List.map_cons, hEntry.key_eq, ih]

theorem AllAlike.append (h : AllAlike first second entries others)
    (h' : AllAlike first second more more') :
    AllAlike first second (entries ++ more) (others ++ more') :=
  List.rel_append h h'

/-- Entries with other keys are shared. -/
theorem Among.allAlike (h : Among keys entries)
    (hKeys : ∀ key ∈ keys, key ∉ "ssid2" :: passphraseKeys) :
    AllAlike first second entries entries := by
  unfold AllAlike
  rw [List.forall₂_same]
  intro entry hMem
  exact .same entry.2 (hKeys entry.1 (h entry hMem))

end

/-! ## The whole configuration -/

/-- The keys of a protection other than those of its passphrase. -/
def protectionHeadKeys : List String :=
  ["wpa", "wpa_pairwise", "rsn_pairwise", "wpa_key_mgmt", "ieee80211w", "sae_require_mfp",
   "sae_pwe"]

/-- The passphrase stands behind all other entries, and these do not depend on it. -/
def PassphraseLast (entriesFor : String → List Entry) : Prop :=
  ∃ head keys, Among protectionHeadKeys head ∧ keys ⊆ passphraseKeys ∧
    ∀ passphrase, entriesFor passphrase = head ++ keys.map fun key => (key, passphrase)

theorem passphraseLast_protectionEntries (security : Security) (bands : Bands) (be : Bool) :
    PassphraseLast (protectionEntries security bands be) := by
  have hSae : ∀ cipher, PassphraseLast (saeEntries cipher bands be) := by
    intro cipher
    exact ⟨[("wpa", "2"), ("rsn_pairwise", cipher), ("wpa_key_mgmt", saeKeyManagement be),
      ("ieee80211w", "2"), ("sae_require_mfp", "2"), ("sae_pwe", saePasswordElement bands)],
      ["sae_password"], by simp [protectionHeadKeys], by decide, fun _ => rfl⟩
  have hOwe : PassphraseLast fun _ => oweEntries bands := by
    refine ⟨oweEntries bands, [], ?_, by decide, fun _ => (List.append_nil _).symm⟩
    simp [oweEntries, protectionHeadKeys]
  cases security with
  | unprotected => exact ⟨[], [], among_nil, by decide, fun _ => rfl⟩
  | wpa =>
      exact ⟨[("wpa", "3"), ("wpa_pairwise", if bands.isOnly .ghz60 then "GCMP" else "TKIP CCMP")],
        ["wpa_passphrase"], by simp [protectionHeadKeys], by decide, fun _ => rfl⟩
  | wpa2 =>
      exact ⟨[("wpa", "2"), ("rsn_pairwise", pairwiseCipher bands)], ["wpa_passphrase"],
        by simp [protectionHeadKeys], by decide, fun _ => rfl⟩
  | saeTransition =>
      unfold protectionEntries
      cases bands.has .ghz6 with
      | true => exact hSae "CCMP"
      | false =>
          exact ⟨[("wpa", "2"), ("rsn_pairwise", pairwiseCipher bands),
            ("wpa_key_mgmt", "WPA-PSK " ++ saeKeyManagement be), ("ieee80211w", "1"),
            ("sae_require_mfp", "1")], ["wpa_passphrase", "sae_password"],
            by simp [protectionHeadKeys], by decide, fun _ => rfl⟩
  | sae => exact hSae (pairwiseCipher bands)
  | oweTransition => exact hOwe
  | owe => exact hOwe

theorem allAlike_protectionEntries (first second : Network) (security : Security) (bands : Bands)
    (be : Bool) :
    AllAlike first second (protectionEntries security bands be first.passphrase)
      (protectionEntries security bands be second.passphrase) := by
  obtain ⟨head, keys, hHead, hKeys, hSplit⟩ := passphraseLast_protectionEntries security bands be
  rw [hSplit, hSplit]
  refine (hHead.allAlike (by decide)).append ?_
  unfold AllAlike
  rw [List.forall₂_map_left_iff, List.forall₂_map_right_iff, List.forall₂_same]
  intro key hMem
  exact .passphrase (hKeys hMem)

theorem allAlike_identityEntries (options : Options) (plan : InstancePlan) (ssid : List UInt8)
    (passphrase : String) :
    AllAlike plan.network (plan.withSecrets ssid passphrase).network
      (identityEntries options plan)
      (identityEntries options (plan.withSecrets ssid passphrase)) := by
  have hHead : Among ["interface", "driver", "ctrl_interface"]
      [("interface", plan.engineInterface), ("driver", "nl80211"),
       ("ctrl_interface", Path.controlSocket options.controlDirectory plan.name)] := by
    simp
  exact (hHead.allAlike (by decide)).append (.cons .name .nil)

/-- Two plans that differ only in their secrets have entries that say the same. -/
theorem allAlike_planEntries {plan : InstancePlan} {overlay eht : List Entry}
    (hOverlay : Among overlayableKeys overlay) (hEht : Among ehtKeys eht) (options : Options)
    (versions : Versions) (mode : String) (ssid : List UInt8) (passphrase : String) :
    AllAlike plan.network (plan.withSecrets ssid passphrase).network
      (planEntries options versions plan overlay eht mode)
      (planEntries options versions (plan.withSecrets ssid passphrase) overlay eht mode) := by
  -- only the identity and the protection depend on the secrets; the other groups are shared
  have hIdentity : AllAlike plan.network (plan.withSecrets ssid passphrase).network _ _ :=
    (hOverlay.allAlike (by decide)).append (allAlike_identityEntries options plan ssid passphrase)
  have hModes := ((hIdentity.append
    ((drawn_channelEntries plan.capabilities plan.channel).among.allAlike (by decide))).append
    ((drawn_modeEntries plan.capabilities).among.allAlike (by decide))).append
    ((drawn_heEntries plan.capabilities plan.channel.bands).among.allAlike (by decide))
  have hWidth := ((hModes.append (hEht.allAlike (by decide))).append
    ((drawn_hardwareMode mode).among.allAlike (by decide))).append
    ((drawn_widthEntries plan.capabilities plan.channel.bands).among.allAlike (by decide))
  have hMetering := (hWidth.append
    ((drawn_visibilityEntries plan.network.hidden).among.allAlike (by decide))).append
    ((drawn_meteringEntries plan.network).among.allAlike (by decide))
  have hHead := hMetering.append (allAlike_protectionEntries plan.network
    (plan.withSecrets ssid passphrase).network plan.network.security plan.channel.bands
    plan.capabilities.be)
  rw [planEntries_eq, planEntries_eq]
  exact hHead.append (((drawn_groupEntries plan).among.allAlike (by decide)).append
    ((drawn_planTail versions plan).among.allAlike (by decide)))

section

variable {host : Host} {options : Options} {versions : Versions} {plan : InstancePlan}
  {ssid : List UInt8} {passphrase : String} {config other : Config}

theorem keptApart_ofPlan (accepted : ofPlan host options versions plan = .ok config)
    (accepted' : ofPlan host options versions (plan.withSecrets ssid passphrase) = .ok other) :
    KeptApart plan.network (plan.withSecrets ssid passphrase).network config other := by
  have hName := values_ssid accepted
  have hOtherName := values_ssid accepted'
  have hEntries : AllAlike plan.network (plan.withSecrets ssid passphrase).network config.entries
      other.entries := by
    obtain ⟨mode, eht, overlay, hMode, hEht, hOverlay, rfl⟩ := ofPlan_eq_ok accepted
    obtain ⟨mode', eht', overlay', hMode', hEht', hOverlay', rfl⟩ := ofPlan_eq_ok accepted'
    -- what is read from the host depends on neither secret
    obtain rfl : mode = mode' := Except.ok.inj (hMode.symm.trans hMode')
    obtain rfl : eht = eht' := Except.ok.inj (hEht.symm.trans hEht')
    obtain rfl : overlay = overlay' := Except.ok.inj (hOverlay.symm.trans hOverlay')
    exact allAlike_planEntries (keyed_overlayEntries hOverlay).among (drawn_ehtEntries hEht).among
      options versions mode ssid passphrase
  refine ⟨hEntries.keys_eq, hEntries, hName, hOtherName, ?_⟩
  rw [get?_eq_getLast?_values, get?_eq_getLast?_values, hName, hOtherName]
  simp [Text.hex_inj]

end

/-- The name and the passphrase of a network go only where they belong: two plans that differ in
nothing else, and that are both accepted, have configurations with the same keys in the same order,
in which the name is spelled out under its own key, the passphrase stands under its own keys, and
all else is equal.  Without protection and with opportunistic encryption the passphrase has no
influence at all, be it that the plan is accepted or refused. -/
theorem ofPlan_keeps_secrets_apart (host : Host) (options : Options) (versions : Versions)
    (plan : InstancePlan) (ssid : List UInt8) (passphrase : String) :
    (∀ config other, ofPlan host options versions plan = .ok config →
      ofPlan host options versions (plan.withSecrets ssid passphrase) = .ok other →
      KeptApart plan.network (plan.withSecrets ssid passphrase).network config other) ∧
    (plan.network.security ∈ [.unprotected, .owe, .oweTransition] →
      ofPlan host options versions (plan.withPassphrase passphrase) =
        ofPlan host options versions plan) := by
  refine ⟨fun config other => keptApart_ofPlan, ?_⟩
  intro hSecurity
  have hUnused : ∀ security ∈ [Security.unprotected, .owe, .oweTransition],
      writesPassphrase security = false := by decide
  exact ofPlan_withPassphrase (hUnused _ hSecurity) host options versions passphrase

end Config

namespace Sample

/-- The plan of an instance that offers WPA-PSK and SAE. -/
def transitionPlan : InstancePlan :=
  { name := "a"
    channel := { bands := Band.mask .ghz2, channel := 6 }
    network := { ssid := [97], security := .saeTransition, passphrase := "12345678" } }

/-- The configuration of such a plan. -/
def transitionConfig (plan : InstancePlan) : Config :=
  ⟨Config.planEntries {} {} plan [] [("ieee80211be", "0")] "g"⟩

/-- The same plan with other secrets. -/
def otherTransitionPlan : InstancePlan :=
  transitionPlan.withSecrets [98] "87654321"

/-- The same plan without protection. -/
def unprotectedPlan : InstancePlan :=
  { transitionPlan with network := { ssid := [97] } }

end Sample

namespace Config

/-- Two networks in SAE transition have different names, and each has its own passphrase under both
keys.  A passphrase that is too short is no reason to refuse an open network. -/
theorem ofPlan_keeps_secrets_apart_of_transition :
    let config := Sample.transitionConfig Sample.transitionPlan
    let other := Sample.transitionConfig Sample.otherTransitionPlan
    ofPlan Sample.host {} {} Sample.transitionPlan = .ok config ∧
      ofPlan Sample.host {} {} Sample.otherTransitionPlan = .ok other ∧
      KeptApart Sample.transitionPlan.network Sample.otherTransitionPlan.network config other ∧
      config.get? "ssid2" ≠ other.get? "ssid2" ∧
      (∀ key ∈ passphraseKeys, config.get? key = some "12345678") ∧
      (∀ key ∈ passphraseKeys, other.get? key = some "87654321") ∧
      ofPlan Sample.host {} {} (Sample.unprotectedPlan.withPassphrase "1") =
        ofPlan Sample.host {} {} Sample.unprotectedPlan := by
  intro config other
  have made : ofPlan Sample.host {} {} Sample.transitionPlan =
      .ok (Sample.transitionConfig Sample.transitionPlan) := by rfl
  have made' : ofPlan Sample.host {} {} Sample.otherTransitionPlan =
      .ok (Sample.transitionConfig Sample.otherTransitionPlan) := by rfl
  obtain ⟨hApart, -⟩ :=
    ofPlan_keeps_secrets_apart Sample.host {} {} Sample.transitionPlan [98] "87654321"
  obtain ⟨-, hUnused⟩ := ofPlan_keeps_secrets_apart Sample.host {} {} Sample.unprotectedPlan [] "1"
  have hKept := hApart _ _ made made'
  have hNames : Sample.transitionPlan.network.ssid ≠ Sample.otherTransitionPlan.network.ssid := by
    decide
  exact ⟨made, made', hKept, mt hKept.names.mp hNames, by decide, by decide,
    hUnused (by decide)⟩

end Config

end SoftAp
