import SoftAp.Proofs.Canonical
import SoftAp.Proofs.OverlayIsolation
import SoftAp.Proofs.Secrets

/-!
# The protection that a configuration offers

A configuration offers ways of key management and ciphers, each as a value with words between
blanks.  The other keys of a protection follow from what is offered: who offers WPA-PSK cannot
demand protected management frames, and no one offers it in the 6 GHz band.  An overlay has no say
in any of it.
-/

namespace SoftAp

namespace Config

/-- The words of a value. -/
def words (value : String) : List String :=
  (Text.splitAll ' ' value.toList).map String.ofList

/-- The words of the effective value of a key, none without a value. -/
def wordsOf (key : String) (config : Config) : List String :=
  (config.get? key).elim [] words

/-- The ways of key management on offer. -/
def offers (config : Config) : List String :=
  config.wordsOf "wpa_key_mgmt"

/-- The keys for the ciphers of pairwise keys. -/
def pairwiseKeys : List String :=
  ["wpa_pairwise", "rsn_pairwise"]

/-- The ciphers for pairwise keys. -/
def ciphers (config : Config) : List String :=
  pairwiseKeys.flatMap fun key => config.wordsOf key

/-- A configuration that protects no less than a protection asks for in a set of bands, with or
without 802.11be. -/
structure Upholds (security : Security) (bands : Bands) (be : Bool) (config : Config) : Prop where
  psk : "WPA-PSK" ∈ config.offers ↔ security = .saeTransition ∧ bands.has .ghz6 = false
  managementFrames : config.contains "ieee80211w" = config.contains "wpa_key_mgmt"
  demand : ∀ value, config.get? "ieee80211w" = some value →
    value = if "WPA-PSK" ∈ config.offers then "1" else "2"
  saeManagementFrames : config.contains "sae_require_mfp" = true ↔ "SAE" ∈ config.offers
  saeDemand : ∀ value, config.get? "sae_require_mfp" = some value →
    config.get? "ieee80211w" = some value
  passwordElement :
    config.contains "sae_pwe" = true ↔ "SAE" ∈ config.offers ∧ "WPA-PSK" ∉ config.offers
  hashing : ∀ value, config.get? "sae_pwe" = some value →
    value = if bands.isOnly .ghz6 then "1" else "2"
  extension : "SAE-EXT-KEY" ∈ config.offers ↔ "SAE" ∈ config.offers ∧ be = true
  passphrase : config.contains "wpa_passphrase" = true ↔
    security = .wpa ∨ security = .wpa2 ∨ security = .saeTransition ∧ bands.has .ghz6 = false
  password : config.contains "sae_password" = true ↔ "SAE" ∈ config.offers
  gcmp : "GCMP" ∈ config.ciphers ↔
    (∃ key ∈ pairwiseKeys, config.contains key = true) ∧ bands.isOnly .ghz60 = true
  gcmpAlone : "GCMP" ∈ config.ciphers → config.ciphers = ["GCMP"]

/-! ## What the keys of a protection say -/

theorem isOnly_ghz60_of_has_ghz6 {bands : Bands} (h : bands.has .ghz6 = true) :
    bands.isOnly .ghz60 = false := by
  rw [Bool.eq_false_iff]
  intro hOnly
  obtain rfl : bands = Band.mask .ghz60 := by simpa [Bands.isOnly, Bands.same] using hOnly
  exact absurd h (by decide)

section

variable {security : Security} {bands : Bands} {be : Bool} {config other : Config}
  {cipher passphrase : String}

/-- What a configuration upholds is told by the keys of the protection alone. -/
theorem Upholds.congr (h : config.Upholds security bands be)
    (same : ∀ key ∈ protectionKeys, other.get? key = config.get? key) :
    other.Upholds security bands be := by
  have hContains : ∀ key ∈ protectionKeys, other.contains key = config.contains key := by
    intro key hKey
    rw [contains_eq_isSome, contains_eq_isSome, same key hKey]
  have hOffers : other.offers = config.offers := by
    unfold offers wordsOf
    rw [same _ (by decide)]
  have hPairwise : ∀ key ∈ pairwiseKeys, key ∈ protectionKeys := by decide
  have hCiphers : other.ciphers = config.ciphers := by
    apply List.flatMap_congr
    intro key hKey
    unfold wordsOf
    rw [same key (hPairwise key hKey)]
  have hPaired : (∃ key ∈ pairwiseKeys, other.contains key = true) ↔
      ∃ key ∈ pairwiseKeys, config.contains key = true := by
    constructor
    · rintro ⟨key, hKey, hHas⟩
      exact ⟨key, hKey, hContains key (hPairwise key hKey) ▸ hHas⟩
    · rintro ⟨key, hKey, hHas⟩
      exact ⟨key, hKey, (hContains key (hPairwise key hKey)).trans hHas⟩
  constructor
  · exact hOffers ▸ h.psk
  · rw [hContains _ (by decide), hContains _ (by decide), h.managementFrames]
  · rw [hOffers, same _ (by decide)]
    exact h.demand
  · rw [hOffers, hContains _ (by decide)]
    exact h.saeManagementFrames
  · rw [same _ (by decide), same _ (by decide)]
    exact h.saeDemand
  · rw [hOffers, hContains _ (by decide)]
    exact h.passwordElement
  · rw [same _ (by decide)]
    exact h.hashing
  · exact hOffers ▸ h.extension
  · rw [hContains _ (by decide)]
    exact h.passphrase
  · rw [hOffers, hContains _ (by decide)]
    exact h.password
  · rw [hCiphers, hPaired]
    exact h.gcmp
  · rw [hCiphers]
    exact h.gcmpAlone

/-- The words of a cipher for pairwise keys with SAE or without. -/
theorem words_pairwiseCipher (bands : Bands) :
    words (pairwiseCipher bands) = if bands.isOnly .ghz60 then ["GCMP"] else ["CCMP"] := by
  unfold pairwiseCipher
  split <;> decide

theorem words_saeKeyManagement (be : Bool) :
    words (saeKeyManagement be) = if be then ["SAE", "SAE-EXT-KEY"] else ["SAE"] := by
  cases be <;> decide

theorem words_transition (be : Bool) :
    words ("WPA-PSK " ++ saeKeyManagement be) = "WPA-PSK" :: words (saeKeyManagement be) := by
  cases be <;> decide

theorem mem_words_saeKeyManagement {word : String} :
    word ∈ words (saeKeyManagement be) ↔ word = "SAE" ∨ word = "SAE-EXT-KEY" ∧ be = true := by
  rw [words_saeKeyManagement]
  cases be <;> simp

/-- Whether GCMP is the cipher is told by the bands, where there is a cipher at all. -/
theorem mem_words_pairwiseCipher (bands : Bands) :
    "GCMP" ∈ words (pairwiseCipher bands) ↔ bands.isOnly .ghz60 = true := by
  rw [words_pairwiseCipher]
  split <;> simp_all

theorem words_pairwiseCipher_of_mem (h : "GCMP" ∈ words (pairwiseCipher bands)) :
    words (pairwiseCipher bands) = ["GCMP"] := by
  rw [words_pairwiseCipher, if_pos ((mem_words_pairwiseCipher bands).mp h)]

/-- SAE alone is offered where it is asked for, and in SAE transition in the 6 GHz band. -/
theorem upholds_saeEntries (hEntries : config.entries = saeEntries cipher bands be passphrase)
    (hCipher : words cipher = words (pairwiseCipher bands))
    (hSecurity : security = .sae ∨ security = .saeTransition ∧ bands.has .ghz6 = true) :
    config.Upholds security bands be := by
  have hOffers : config.offers = words (saeKeyManagement be) := by
    simp [offers, wordsOf, get?, hEntries, saeEntries, lastValue?]
  have hCiphers : config.ciphers = words (pairwiseCipher bands) := by
    simp [ciphers, wordsOf, get?, hEntries, saeEntries, lastValue?, pairwiseKeys, hCipher]
  have hPsk : ¬(security = .saeTransition ∧ bands.has .ghz6 = false) := by
    rcases hSecurity with rfl | ⟨_, hSix⟩
    · simp
    · simp [hSix]
  have hPassphrase : security ≠ .wpa ∧ security ≠ .wpa2 := by
    rcases hSecurity with rfl | ⟨rfl, _⟩ <;> decide
  constructor
  case gcmpAlone =>
    rw [hCiphers]
    exact words_pairwiseCipher_of_mem
  all_goals
    simp [hOffers, hCiphers, mem_words_saeKeyManagement, mem_words_pairwiseCipher, hPsk,
      hPassphrase, contains, get?, hEntries, saeEntries, saePasswordElement, pairwiseKeys,
      lastValue?]

/-- WPA-PSK and SAE are offered in SAE transition, if 6 GHz is not among the bands. -/
theorem upholds_saeTransitionEntries
    (hEntries : config.entries = saeTransitionEntries bands be passphrase)
    (noSix : bands.has .ghz6 = false) : config.Upholds .saeTransition bands be := by
  have hOffers : config.offers = "WPA-PSK" :: words (saeKeyManagement be) := by
    rw [← words_transition]
    simp [offers, wordsOf, get?, hEntries, saeTransitionEntries, lastValue?]
  have hCiphers : config.ciphers = words (pairwiseCipher bands) := by
    simp [ciphers, wordsOf, get?, hEntries, saeTransitionEntries, lastValue?, pairwiseKeys]
  constructor
  case gcmpAlone =>
    rw [hCiphers]
    exact words_pairwiseCipher_of_mem
  all_goals
    simp [hOffers, hCiphers, mem_words_saeKeyManagement, mem_words_pairwiseCipher, noSix, contains,
      get?, hEntries, saeTransitionEntries, pairwiseKeys, lastValue?]

/-- Opportunistic encryption offers nothing else. -/
theorem upholds_oweEntries (hEntries : config.entries = oweEntries bands)
    (hSecurity : security = .owe ∨ security = .oweTransition) :
    config.Upholds security bands be := by
  have hWords : words "OWE" = ["OWE"] := by decide
  have hOffers : config.offers = ["OWE"] := by
    simp [offers, wordsOf, get?, hEntries, oweEntries, lastValue?, hWords]
  have hCiphers : config.ciphers = words (pairwiseCipher bands) := by
    simp [ciphers, wordsOf, get?, hEntries, oweEntries, lastValue?, pairwiseKeys]
  have hOther : security ≠ .saeTransition ∧ security ≠ .wpa ∧ security ≠ .wpa2 := by
    rcases hSecurity with rfl | rfl <;> decide
  constructor
  case gcmpAlone =>
    rw [hCiphers]
    exact words_pairwiseCipher_of_mem
  all_goals
    simp [hOffers, hCiphers, mem_words_pairwiseCipher, hOther, contains, get?, hEntries, oweEntries,
      pairwiseKeys, lastValue?]

/-- The older protections offer no key management of their own, only a passphrase and a cipher. -/
theorem upholds_of_passphrase {key version : String}
    (hEntries : config.entries =
      [("wpa", version), (key, cipher), ("wpa_passphrase", passphrase)])
    (hKey : key ∈ pairwiseKeys) (hSecurity : security = .wpa ∨ security = .wpa2)
    (hGcmp : "GCMP" ∈ words cipher ↔ bands.isOnly .ghz60 = true)
    (hAlone : "GCMP" ∈ words cipher → words cipher = ["GCMP"]) :
    config.Upholds security bands be := by
  have hOther : security ≠ .saeTransition := by
    rcases hSecurity with rfl | rfl <;> decide
  have hPair : key = "wpa_pairwise" ∨ key = "rsn_pairwise" := by simpa [pairwiseKeys] using hKey
  have hOffers : config.offers = [] := by
    rcases hPair with rfl | rfl <;> simp [offers, wordsOf, get?, hEntries, lastValue?]
  have hCiphers : config.ciphers = words cipher := by
    rcases hPair with rfl | rfl <;>
      simp [ciphers, wordsOf, get?, hEntries, lastValue?, pairwiseKeys]
  constructor
  case gcmpAlone => rwa [hCiphers]
  all_goals
    rcases hPair with rfl | rfl <;>
      simp [hOffers, hCiphers, hGcmp, hOther, ← or_assoc, hSecurity, contains, get?, hEntries,
        pairwiseKeys, lastValue?]

theorem upholds_protectionEntries
    (hEntries : config.entries = protectionEntries security bands be passphrase) :
    config.Upholds security bands be := by
  cases security with
  | unprotected =>
      have hOffers : config.offers = [] := by
        simp [offers, wordsOf, get?, hEntries, protectionEntries, lastValue?]
      have hCiphers : config.ciphers = [] := by
        simp [ciphers, wordsOf, get?, hEntries, protectionEntries, lastValue?, pairwiseKeys]
      constructor <;>
        simp [hOffers, hCiphers, contains, get?, hEntries, protectionEntries, lastValue?]
  | wpa =>
      refine upholds_of_passphrase hEntries (by decide) (.inl rfl) ?_ ?_
      · cases bands.isOnly .ghz60 <;> decide
      · cases bands.isOnly .ghz60 <;> decide
  | wpa2 =>
      exact upholds_of_passphrase hEntries (by decide) (.inr rfl) (mem_words_pairwiseCipher bands)
        words_pairwiseCipher_of_mem
  | saeTransition =>
      unfold protectionEntries at hEntries
      cases hSix : bands.has .ghz6 with
      | true =>
          rw [hSix] at hEntries
          have hCipher : words "CCMP" = words (pairwiseCipher bands) := by
            unfold pairwiseCipher
            rw [isOnly_ghz60_of_has_ghz6 hSix]
            rfl
          exact upholds_saeEntries hEntries hCipher (.inr ⟨rfl, hSix⟩)
      | false =>
          rw [hSix] at hEntries
          exact upholds_saeTransitionEntries hEntries hSix
  | sae => exact upholds_saeEntries hEntries rfl (.inl rfl)
  | oweTransition => exact upholds_oweEntries hEntries (.inr rfl)
  | owe => exact upholds_oweEntries hEntries (.inl rfl)

/-! ## Whole configurations -/

variable {host : Host} {options : Options} {versions : Versions} {plan : InstancePlan}

/-- The effective values of the keys of protection are those of the protection of the network. -/
theorem get?_protection (made : ofPlan host options versions plan = .ok config) {key : String}
    (hKey : key ∈ protectionKeys) :
    config.get? key = Config.get? key ⟨protectionEntries plan.network.security plan.channel.bands
      plan.capabilities.be plan.network.passphrase⟩ := by
  rw [get?_eq_getLast?_values, values_protection made hKey, get?_eq_getLast?_values]
  rfl

/-- A configuration that is built upholds the protection that its network asks for: WPA-PSK is
offered only in SAE transition and never in the 6 GHz band, management frames are protected as
strictly as this allows, and the passphrase, the password element and the cipher fit what is
offered.  With any other overlay the keys of the protection have the same effective values. -/
theorem ofPlan_upholds_protection (made : ofPlan host options versions plan = .ok config) :
    config.Upholds plan.network.security plan.channel.bands plan.capabilities.be ∧
      ∀ read other, ofPlan (host.withOverlays read) options versions plan = .ok other →
        ∀ key ∈ protectionKeys, other.get? key = config.get? key := by
  refine ⟨?_, ?_⟩
  · apply Upholds.congr (upholds_protectionEntries rfl)
    intro key hKey
    exact get?_protection made hKey
  · intro read other hOther key hKey
    rw [get?_protection hOther hKey, get?_protection made hKey]

/-- WPA-PSK is offered in the 2.4 GHz band, and an overlay that asks for less is without effect. -/
theorem ofPlan_upholds_transition_of_overlay :
    let text := "wpa_key_mgmt=NONE\nieee80211w=0\nwmm_enabled=1"
    let built := fun host => ofPlan host {} {} Sample.transitionPlan
    ∃ config other, built Sample.host = .ok config ∧
      built (Sample.host.withOverlays fun _ => .ok (some text)) = .ok other ∧
      config.Upholds .saeTransition (Band.mask .ghz2) false ∧
      "WPA-PSK" ∈ config.offers ∧ other.get? "ieee80211w" = some "1" := by
  intro text built
  have made : built Sample.host = .ok (Sample.transitionConfig Sample.transitionPlan) := by rfl
  obtain ⟨other, hOther⟩ : ∃ other,
      built (Sample.host.withOverlays fun _ => .ok (some text)) = .ok other := ⟨_, rfl⟩
  obtain ⟨hUpholds, hSame⟩ := ofPlan_upholds_protection made
  refine ⟨_, other, made, hOther, hUpholds, hUpholds.psk.mpr (by decide), ?_⟩
  rw [hSame _ other hOther "ieee80211w" (by decide)]
  decide

end

end Config

end SoftAp
