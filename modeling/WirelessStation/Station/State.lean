import WirelessStation.Catalogue

/-! # States, properties and events of a station

A station is off, idle in one of two ways, or on the connected side.  Clients of the bus see the
three states of the disconnected side as one; watchers see every transition. -/

namespace WirelessStation

namespace Station

inductive State where
  /-- The interface is down. -/
  | off
  /-- Idle until told to connect. -/
  | disconnected
  /-- Idle, and connects to known networks by itself after each scan. -/
  | autoconnect
  /-- An attempt is under way. -/
  | connecting
  | connected
  /-- A disconnect that was asked for is under way. -/
  | disconnecting
deriving DecidableEq, Repr, Inhabited

namespace State

/-- The place of a state in the order of states. -/
def place : State → Nat
  | off => 0
  | disconnected => 1
  | autoconnect => 2
  | connecting => 3
  | connected => 4
  | disconnecting => 5

/-- Whether a state comes after autoconnect. -/
def isConnectedSide (s : State) : Bool :=
  autoconnect.place < s.place

/-- The state as clients of the bus see it. -/
def busText : State → String
  | off | disconnected | autoconnect => "disconnected"
  | connecting => "connecting"
  | connected => "connected"
  | disconnecting => "disconnecting"

/-- Whether clients of the bus see a difference between two states. -/
def externallyDistinct (s next : State) : Bool :=
  if s.isConnectedSide then s != next else next.isConnectedSide

def text : State → String
  | off => "off"
  | disconnected => "disconnected"
  | autoconnect => "autoconnect"
  | connecting => "connecting"
  | connected => "connected"
  | disconnecting => "disconnecting"

/-- Clients see a difference exactly when the text that they see differs. -/
theorem externallyDistinct_iff (s t : State) : s.externallyDistinct t ↔ s.busText ≠ t.busText := by
  cases s <;> cases t <;> decide

end State

/-- What clients may read of a station and are told the changes of. -/
inductive Property where
  | name
  | connectedNetwork
  | powered
  | scanning
  | state
deriving DecidableEq, Repr

def Property.label : Property → String
  | name => "Name"
  | connectedNetwork => "ConnectedNetwork"
  | powered => "Powered"
  | scanning => "Scanning"
  | state => "State"

/-- The values of the properties at one moment. -/
structure Properties where
  name : String
  connectedNetwork : Option String
  powered : Bool
  scanning : Bool
  state : String
deriving DecidableEq, Repr

/-- What a station tells its watchers. -/
inductive Event where
  /-- Every transition, whether or not clients of the bus see it. -/
  | stateChanged (old new : State)
  | propertyChanged (property : Property)
  /-- Whether the network with this path is the connected one has changed. -/
  | networkConnectedChanged (path : String)
  | networkAdded (path : String)
  | networkRemoved (path : String) (reason : RemovalReason)
  /-- An enrollment found its registrar. -/
  | registrarFound (address : Address)
deriving DecidableEq, Repr

/-- A change of the catalogue as an event. -/
def Event.ofChange : Catalogue.Change → Event
  | .added path => .networkAdded path
  | .removed path reason => .networkRemoved path reason

end Station

end WirelessStation
