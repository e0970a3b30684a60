import WirelessStation.Security
import WirelessStation.Text.Utf8

/-! # Names of interfaces and networks

An interface is named by its radio and its index, and a network by its interface, the octets of its
SSID in hexadecimal and the tag of its security type.  The name of a network is its key in a
catalogue and its path on the bus. -/

namespace WirelessStation

/-- The name of interface `index` on the radio named `adapter`. -/
def devicePath (adapter : String) (index : Nat) : String :=
  adapter ++ "/" ++ toString index

/-- The name of a network heard by the interface named `device`. -/
def networkPath (device ssid : String) (security : Security) : String :=
  device ++ "/" ++ (utf8 ssid).hex ++ "_" ++ security.tag

end WirelessStation
