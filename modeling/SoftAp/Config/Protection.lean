import SoftAp.Association
import SoftAp.Config.Basic
import SoftAp.InstancePlan

/-!
# Protection entries

The entries that say how the traffic is protected.  A passphrase is checked by its length in bytes
before it is used.  In the 6 GHz band WPA-PSK is not allowed, so SAE transition offers SAE alone
there.
-/

namespace SoftAp.Config

/-- The value of a switch. -/
def flag (on : Bool) : String :=
  if on then "1" else "0"

/-- Whether a protection uses a passphrase of 8 to 63 bytes. -/
def usesPsk : Security → Bool
  | .wpa | .wpa2 | .saeTransition => true
  | _ => false

/-- Check the length of the passphrase of a network. -/
def checkPassphrase (network : Network) : Except Refusal Unit :=
  let length := network.passphrase.utf8ByteSize
  if usesPsk network.security ∧ (length < 8 ∨ 63 < length) ∨
      network.security = .sae ∧ length = 0 then
    .error (.invalidPassphrase network.security length)
  else .ok ()

/-- The cipher for pairwise keys. -/
def pairwiseCipher (bands : Bands) : String :=
  if bands.isOnly .ghz60 then "GCMP" else "CCMP"

/-- The key management of SAE; with 802.11be it has an extension. -/
def saeKeyManagement (be : Bool) : String :=
  if be then "SAE SAE-EXT-KEY" else "SAE"

/-- How the password element of SAE is derived: by hashing alone in a pure 6 GHz network. -/
def saePasswordElement (bands : Bands) : String :=
  if bands.isOnly .ghz6 then "1" else "2"

/-- The entries of a network that offers SAE alone. -/
def saeEntries (cipher : String) (bands : Bands) (be : Bool) (passphrase : String) : List Entry :=
  [("wpa", "2"),
   ("rsn_pairwise", cipher),
   ("wpa_key_mgmt", saeKeyManagement be),
   ("ieee80211w", "2"),
   ("sae_require_mfp", "2"),
   ("sae_pwe", saePasswordElement bands),
   ("sae_password", passphrase)]

/-- The entries of a network that offers WPA-PSK and SAE. -/
def saeTransitionEntries (bands : Bands) (be : Bool) (passphrase : String) : List Entry :=
  [("wpa", "2"),
   ("rsn_pairwise", pairwiseCipher bands),
   ("wpa_key_mgmt", "WPA-PSK " ++ saeKeyManagement be),
   ("ieee80211w", "1"),
   ("sae_require_mfp", "1"),
   ("wpa_passphrase", passphrase),
   ("sae_password", passphrase)]

/-- The entries of a network with opportunistic encryption. -/
def oweEntries (bands : Bands) : List Entry :=
  [("wpa", "2"),
   ("rsn_pairwise", pairwiseCipher bands),
   ("wpa_key_mgmt", "OWE"),
   ("ieee80211w", "2")]

/-- The entries of a protection in a set of bands, with or without 802.11be. -/
def protectionEntries (security : Security) (bands : Bands) (be : Bool) (passphrase : String) :
    List Entry :=
  match security with
  | .unprotected => []
  | .wpa =>
      [("wpa", "3"),
       ("wpa_pairwise", if bands.isOnly .ghz60 then "GCMP" else "TKIP CCMP"),
       ("wpa_passphrase", passphrase)]
  | .wpa2 =>
      [("wpa", "2"),
       ("rsn_pairwise", pairwiseCipher bands),
       ("wpa_passphrase", passphrase)]
  | .saeTransition =>
      if bands.has .ghz6 then saeEntries "CCMP" bands be passphrase
      else saeTransitionEntries bands be passphrase
  | .sae => saeEntries (pairwiseCipher bands) bands be passphrase
  | .oweTransition | .owe => oweEntries bands

end SoftAp.Config
