import SoftAp.Association
import SoftAp.Request
import SoftAp.Text

/-!
# Configurations

The configuration of one access point instance is a list of entries.  A key may occur more than
once; the engine reads the lines in order, so the last value is the effective one.  There are
reasons for which no configuration is generated.
-/

namespace SoftAp

/-- An ordered list of configuration entries. -/
structure Config where
  entries : List Entry := []
  deriving DecidableEq, Repr

namespace Config

/-- The last value of a key among entries. -/
def lastValue? (key : String) : List Entry → Option String
  | [] => none
  | (k, v) :: rest =>
      match lastValue? key rest with
      | some later => some later
      | none => if k = key then some v else none

/-- The effective value of a key. -/
def get? (key : String) (config : Config) : Option String :=
  lastValue? key config.entries

/-- Whether a key occurs. -/
def contains (key : String) (config : Config) : Bool :=
  config.entries.any fun entry => entry.1 == key

/-- Add an entry at the end. -/
def push (key value : String) (config : Config) : Config :=
  ⟨config.entries ++ [(key, value)]⟩

/-- The entries of two configurations, one after the other. -/
def append (first second : Config) : Config :=
  ⟨first.entries ++ second.entries⟩

/-- The text of the configuration file. -/
def render (config : Config) : String :=
  renderEntries config.entries

theorem lastValue?_append (key : String) (first second : List Entry) :
    lastValue? key (first ++ second) =
      (lastValue? key second).or (lastValue? key first) := by
  induction first with
  | nil => simp [lastValue?]
  | cons entry rest ih =>
      obtain ⟨k, v⟩ := entry
      simp only [List.cons_append, lastValue?, ih]
      cases lastValue? key second <;> cases lastValue? key rest <;> rfl

/-- Appended entries win over the ones in front of them. -/
theorem get?_append (key : String) (first second : Config) :
    (first.append second).get? key = (second.get? key).or (first.get? key) :=
  lastValue?_append key first.entries second.entries

/-! ## Refusals -/

/-- Why a configuration cannot be generated. -/
inductive Refusal
  | ssidTooLong (length : Nat)
  | invalidPassphrase (security : Security) (length : Nat)
  | invalidBands (bands : Bands)
  | unknownSecurity (code : Int32)
  | noMacAddress (interface reason : String)
  | unreadableOverlay (path reason : String)
  deriving DecidableEq, Repr

/-- The wording of a refusal. -/
def Refusal.message : Refusal → String
  | .ssidTooLong length => "Invalid SSID size: " ++ toString length
  | .invalidPassphrase security length =>
      "Invalid passphrase length " ++ toString length ++ " for " ++ security.name
  | .invalidBands bands => "Invalid band mask " ++ Text.hexNumber bands.bits.toNat
  | .unknownSecurity code => "Unknown encryption type " ++ toString code.toInt
  | .noMacAddress interface reason =>
      "Unable to get mac address of " ++ interface ++ " for 11BE SAP: " ++ reason
  | .unreadableOverlay path reason => "Cannot read overlay " ++ path ++ ": " ++ reason

end Config

end SoftAp
