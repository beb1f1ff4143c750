import SoftAp.Config.Protection
import SoftAp.OperatingClass
import SoftAp.Text

/-!
# Radio entries

The entries that say which channel, which hardware mode and which widths an instance uses.
-/

namespace SoftAp.Config

/-- The text of a range of frequencies: its ends with a hyphen between them, or its only one. -/
def rangeText (range : FrequencyRange) : String :=
  if range.low ≠ range.high then Text.decimal range.low ++ "-" ++ Text.decimal range.high
  else Text.decimal range.low

/-- The text of a list of ranges, with commas between them. -/
def frequencyList (ranges : List FrequencyRange) : String :=
  String.intercalate "," (ranges.map rangeText)

/-- The channel, or the ranges for automatic selection. -/
def channelEntries (capabilities : Capabilities) (spec : ChannelSpec) : List Entry :=
  if spec.automatic then
    [("channel", "0"),
     ("acs_exclude_dfs", flag spec.excludeDfs),
     ("freqlist", frequencyList spec.ranges)]
  else
    [("channel", Text.decimal spec.channel),
     ("op_class",
       toString (OperatingClass.ofChannel spec.channel spec.bands capabilities.n capabilities.ac))]

/-- 802.11ax is used if it is wanted and the 60 GHz band is not. -/
def usesHe (capabilities : Capabilities) (bands : Bands) : Bool :=
  capabilities.ax && !bands.has .ghz60

/-- 802.11be is used if it is wanted and the 60 GHz band is not. -/
def usesEht (capabilities : Capabilities) (bands : Bands) : Bool :=
  capabilities.be && !bands.has .ghz60

/-- The entries of 802.11ax. -/
def heEntries (capabilities : Capabilities) (bands : Bands) : List Entry :=
  if usesHe capabilities bands then
    [("ieee80211ax", "1"),
     ("he_su_beamformer", flag capabilities.singleUserBeamformer),
     ("he_su_beamformee", flag capabilities.singleUserBeamformee),
     ("he_mu_beamformer", flag capabilities.multiUserBeamformer),
     ("he_twt_required", flag capabilities.targetWakeTime)]
  else [("ieee80211ax", "0")]

/-- The hardware mode of a set of bands, if any of its bits is a band. -/
def hardwareMode? (bands : Bands) : Option String :=
  if bands.has .ghz60 then some "ad"
  else if bands.has .ghz2 then
    some (if bands.has .ghz5 || bands.has .ghz6 then "any" else "g")
  else if bands.has .ghz5 || bands.has .ghz6 then some "a"
  else none

/-- The entries of channel bonding in the 60 GHz band. -/
def edmgEntries (capabilities : Capabilities) (spec : ChannelSpec) : List Entry :=
  if spec.bands.has .ghz60 && capabilities.edmg then
    [("enable_edmg", "1"), ("edmg_channel", Text.decimal spec.channel)]
  else []

/-- A width that fixes the operating width of all modes. -/
structure FixedWidth where
  /-- The channel is at least 40 MHz wide. -/
  ht40 : Bool
  /-- The code of the operating width. -/
  code : Nat
  /-- The operating class of the width in the 6 GHz band. -/
  sixGhzClass : Nat
  deriving DecidableEq, Repr

/-- The fixed width that a request asks for. -/
def fixedWidth? : Bandwidth → Option FixedWidth
  | .mhz20 => some ⟨false, 0, 131⟩
  | .mhz40 => some ⟨true, 0, 132⟩
  | .mhz80 => some ⟨true, 1, 133⟩
  | .mhz160 => some ⟨true, 2, 134⟩
  | _ => none

/-- An entry that is there only under a condition. -/
def entryIf (condition : Bool) (key value : String) : List Entry :=
  if condition then [(key, value)] else []

/-- The code of a width for a mode that may be off. -/
def widthCode (on : Bool) (width : FixedWidth) : String :=
  toString (if on then width.code else 0)

/-- The entries of a fixed width. -/
def fixedWidthEntries (capabilities : Capabilities) (bands : Bands) (width : FixedWidth) :
    List Entry :=
  entryIf width.ht40 "ht_capab" "[HT40+]" ++
    [("eht_oper_chwidth", widthCode (usesEht capabilities bands) width),
     ("he_oper_chwidth", widthCode (usesHe capabilities bands) width),
     ("vht_oper_chwidth", widthCode capabilities.ac width)] ++
    entryIf (bands.has .ghz6) "op_class" (toString width.sixGhzClass)

/-- The entries of a width that is left to the modes in use. -/
def openWidthEntries (capabilities : Capabilities) (bands : Bands) : List Entry :=
  entryIf capabilities.ac "ht_capab" "[HT40+]" ++
    entryIf capabilities.ac "vht_oper_chwidth" "1" ++
    entryIf (bands.has .ghz6) "op_class" (if capabilities.be then "137" else "134") ++
    entryIf capabilities.ax "he_oper_chwidth" "1" ++
    entryIf capabilities.be "eht_oper_chwidth" "1"

/-- The entries for the width of the channel.  A width that is not fixed needs none in a pure
2.4 GHz network or with the 60 GHz band. -/
def widthEntries (capabilities : Capabilities) (bands : Bands) : List Entry :=
  match fixedWidth? capabilities.bandwidth with
  | some width => fixedWidthEntries capabilities bands width
  | none =>
      if bands.isOnly .ghz2 || bands.has .ghz60 then []
      else openWidthEntries capabilities bands

end SoftAp.Config
