import WirelessStation.Bus.Failure
import WirelessStation.Manager

/-! # Objects

An object on the bus plays a role at a path.  Its role names the interface under which clients find
it, and fixes its properties.  An object keeps no values: it holds the index of its interface, and
every read goes to the station as it is at that moment.  Objects outlive stations, and then some of
their properties cannot be read. -/

namespace WirelessStation.Bus

/-- What an object is to clients. -/
inductive Role where
  | device
  | enrollment
  | network
deriving DecidableEq, Repr

/-- The interface of the objects in a role. -/
def Role.interface : Role → String
  | device => "net.connman.iwd.Device"
  | enrollment => "net.connman.iwd.WiFiSimpleConfiguration"
  | network => "net.connman.iwd.Network"

/-- An object and the interface, and where there is one the network, that it stands for. -/
inductive Object where
  | device (index : Nat)
  | enrollment (index : Nat)
  | network (index : Nat) (network : String)
deriving DecidableEq, Repr

/-- The value of a property. -/
inductive Value where
  | text (t : String)
  | flag (b : Bool)
deriving DecidableEq, Repr

namespace Object

def role : Object → Role
  | device _ => .device
  | enrollment _ => .enrollment
  | network _ _ => .network

/-- The index of the station that an object asks. -/
def index : Object → Nat
  | device index | enrollment index | network index _ => index

/-- The properties of a device. -/
def deviceProperties (station : Option Station) : List (String × Option Value) :=
  let read (value : Station → Value) := station.map value
  [("Name", read fun s => .text s.name),
    ("Address", read fun s => .text s.address.text),
    ("ConnectedNetwork", read fun s => .text (s.connectedNetwork.getD "/")),
    ("Powered", read fun s => .flag s.isPowered),
    ("Scanning", read fun s => .flag s.scanning),
    ("State", read fun s => .text s.state.busText),
    ("Adapter", read fun s => .text s.adapterPath)]

/-- The properties of the network with a path.  Whether it is connected can always be read. -/
def networkProperties (station : Option Station) (path : String) :
    List (String × Option Value) :=
  let network := station.bind fun s => s.network? path
  [("Name", network.map fun n => .text n.ssid),
    ("Connected", some (.flag (station.bind Station.connectedNetwork == some path))),
    ("Device", station.map fun s => .text s.path),
    ("Type", network.map fun n => .text n.security.tag)]

/-- The names of all properties of an object, with the values of those that can be read. -/
def properties (m : Manager) : Object → List (String × Option Value)
  | device index => deviceProperties (m.station? index)
  | enrollment _ => []
  | network index path => networkProperties (m.station? index) path

/-- The properties of an object that can be read. -/
def readable (m : Manager) (o : Object) : List (String × Value) :=
  (o.properties m).filterMap fun p => p.2.map fun v => (p.1, v)

/-- The failure of a read, when that which the object stands for is gone. -/
def gone : Object → Failure
  | device index | enrollment index => .ofBus "UnknownObject" (Failure.missingInterface index)
  | network _ path => .ofBus "UnknownObject" path

/-- Reads one property. -/
def read (m : Manager) (o : Object) (property : String) : Except Failure Value :=
  match (o.properties m).lookup property with
  | none => .error (.unknownProperty property)
  | some none => .error o.gone
  | some (some v) => .ok v

end Object

end WirelessStation.Bus
