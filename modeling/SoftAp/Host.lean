import SoftAp.Text

/-!
# The host

What the generation of a configuration asks of the machine it runs on, which is about its network
interfaces and one file.  The name of an interface has between 1 and 15 bytes, none of them zero;
other names are refused before the system is asked.
-/

namespace SoftAp

/-! ## Hardware addresses -/

/-- The six bytes of an IEEE 802 address, first byte first. -/
structure MacAddress where
  byte1 : UInt8
  byte2 : UInt8
  byte3 : UInt8
  byte4 : UInt8
  byte5 : UInt8
  byte6 : UInt8
  deriving DecidableEq, Repr

namespace MacAddress

/-- The address with six zero bytes. -/
def zero : MacAddress := ⟨0, 0, 0, 0, 0, 0⟩

/-- The address of a sequence of exactly six bytes. -/
def ofBytes? : List UInt8 → Option MacAddress
  | [a, b, c, d, e, f] => some ⟨a, b, c, d, e, f⟩
  | _ => none

/-- The bytes of an address. -/
def toList (address : MacAddress) : List UInt8 :=
  [address.byte1, address.byte2, address.byte3, address.byte4, address.byte5, address.byte6]

/-- The text of an address: its bytes in hexadecimal with colons between them. -/
def text (address : MacAddress) : String :=
  String.intercalate ":" (address.toList.map fun byte => Text.hex [byte])

/-- The address with a text. -/
def ofText? (text : List Char) : Option MacAddress :=
  ((Text.splitAll ':' text).mapM Text.byteOfHex?).bind ofBytes?

/-- What is said of a sequence of bytes that is not an address. -/
def lengthMessage : String := "could not convert slice to array"

theorem ofBytes?_toList (address : MacAddress) : ofBytes? address.toList = some address := rfl

theorem ofBytes?_eq_none_iff (bytes : List UInt8) :
    ofBytes? bytes = none ↔ bytes.length ≠ 6 := by
  rcases bytes with _ | ⟨a, _ | ⟨b, _ | ⟨c, _ | ⟨d, _ | ⟨e, _ | ⟨f, _ | ⟨g, rest⟩⟩⟩⟩⟩⟩⟩ <;>
    simp [ofBytes?]

end MacAddress

/-! ## Answers of the machine -/

/-- The answers of a machine at one moment.  Each may be a refusal, given by its text. -/
structure Host where
  /-- The text of an overlay file, or nothing if there is no readable one. -/
  readOverlay : String → Except String (Option String)
  /-- The hardware address of an interface. -/
  macAddress : String → Except String MacAddress
  /-- The interfaces of a bridge, in the order of the bridge. -/
  bridgeMembers : String → Except String (List String)

namespace InterfaceName

/-- Whether a text can be the name of an interface. -/
def isValid (name : String) : Bool :=
  name != "" && name.utf8ByteSize < 16 && !name.toList.contains '\x00'

/-- What is said of a name that is refused. -/
def refusal (name : String) : String :=
  "Invalid interface name '" ++ name ++ "'"

/-- The hardware address of an interface that the system does not have. -/
def missingAddress (name : String) : Except String MacAddress :=
  if isValid name then
    .error ("Could not get interface " ++ name ++ " hwaddr: No such device (os error 19)")
  else .error (refusal name)

/-- The members of a bridge that the system does not have. -/
def missingBridge (name : String) : Except String (List String) :=
  if isValid name then .error "Failed to ioctl SIOCDEVPRIVATE: No such device (os error 19)"
  else .error (refusal name)

end InterfaceName

end SoftAp
