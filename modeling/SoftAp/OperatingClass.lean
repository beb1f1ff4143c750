import SoftAp.Bands

/-!
# Operating classes

The global operating class of a channel, IEEE 802.11 Annex E, table E-4.  The lowest band of a set
decides which part of the table is read.  For the 40 MHz classes of the 2.4 and 5 GHz bands the
channel number also says on which side of the primary channel the secondary one lies.
-/

namespace SoftAp.OperatingClass

/-- The class of a channel that no class contains. -/
def unknown : Nat := 0

/-- Classes of the 2.4 GHz band: 83 has the secondary channel above the primary, 84 below. -/
def ofGhz2 (channel : Int) (n : Bool) : Nat :=
  if channel = 14 then 82
  else if 1 ≤ channel ∧ channel ≤ 13 ∧ !n then 81
  else if 1 ≤ channel ∧ channel ≤ 9 then 83
  else if 10 ≤ channel ∧ channel ≤ 13 then 84
  else unknown

/-- Classes of the 5 GHz band without 802.11n: the channel is 20 MHz wide. -/
def ofGhz5Narrow (channel : Int) : Nat :=
  if 36 ≤ channel ∧ channel ≤ 48 then 115
  else if 52 ≤ channel ∧ channel ≤ 64 then 118
  else if 100 ≤ channel ∧ channel ≤ 144 then 121
  else if 149 ≤ channel ∧ channel ≤ 161 then 124
  else if 165 ≤ channel ∧ channel ≤ 169 then 125
  else unknown

/-- Classes of the 5 GHz band with 802.11n: the channel is 40 MHz wide, and 116, 119, 122 and 126
have the secondary channel above the primary. -/
def ofGhz5Wide (channel : Int) : Nat :=
  if channel ∈ [36, 44] then 116
  else if channel ∈ [40, 48] then 117
  else if channel ∈ [52, 60] then 119
  else if channel ∈ [56, 64] then 120
  else if channel ∈ [100, 108, 116, 124, 132, 140] then 122
  else if channel ∈ [104, 112, 120, 128, 136, 144] then 123
  else if channel ∈ [149, 157] then 126
  else if channel ∈ [153, 161] then 127
  else unknown

/-- Classes of the 5 GHz band: with 802.11ac the centres of the 80 and 160 MHz channels have
classes of their own. -/
def ofGhz5 (channel : Int) (n ac : Bool) : Nat :=
  if ac ∧ channel ∈ [42, 58, 106, 122, 138, 155] then 128
  else if ac ∧ channel ∈ [50, 114] then 129
  else if n then ofGhz5Wide channel
  else ofGhz5Narrow channel

/-- Classes of the 6 GHz band, which are told apart by the low bits of the channel number. -/
def ofGhz6 (channel : Int) : Nat :=
  if channel % 4 = 1 then 131
  else if channel % 8 = 3 then 132
  else if channel % 16 = 7 then 133
  else if channel % 32 = 15 then 134
  else if channel = 2 then 136
  else unknown

/-- Classes of the 60 GHz band. -/
def ofGhz60 (channel : Int) : Nat :=
  if 1 ≤ channel ∧ channel ≤ 8 then 180
  else if 9 ≤ channel ∧ channel ≤ 15 then 181
  else if 17 ≤ channel ∧ channel ≤ 22 then 182
  else if 25 ≤ channel ∧ channel ≤ 29 then 183
  else unknown

/-- The operating class of a channel in the lowest band of a set, with or without 802.11n and
802.11ac. -/
def ofChannel (channel : Int32) (bands : Bands) (n ac : Bool) : Nat :=
  if bands.has .ghz2 then ofGhz2 channel.toInt n
  else if bands.has .ghz5 then ofGhz5 channel.toInt n ac
  else if bands.has .ghz6 then ofGhz6 channel.toInt
  else if bands.has .ghz60 then ofGhz60 channel.toInt
  else unknown

end SoftAp.OperatingClass
