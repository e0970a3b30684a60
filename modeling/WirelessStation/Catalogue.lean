import WirelessStation.Network
import WirelessStation.Path

/-! # The catalogue

What one interface hears: the current observations and the networks made of them, in the order in
which the networks were first heard.  The ranked view of the networks is by descending rank, equal
ranks in that order.  In what tables all this is stored is told in
`WirelessStation.Catalogue.Tables`. -/

namespace WirelessStation

/-- Why a network left the catalogue. -/
inductive RemovalReason where
  /-- Nothing of it was heard in the last scan. -/
  | outOfRange
  /-- The interface went down or away. -/
  | shutdown
deriving DecidableEq, Repr, Inhabited

def RemovalReason.text : RemovalReason → String
  | outOfRange => "out of range"
  | shutdown => "shutdown"

structure Catalogue where
  /-- The name of the interface. -/
  device : String
  observations : List Observation := []
  /-- In the order in which they were first heard. -/
  networks : List Network := []
deriving DecidableEq, Repr

namespace Catalogue

/-- A change of the set of networks. -/
inductive Change where
  | added (path : String)
  | removed (path : String) (reason : RemovalReason)
deriving DecidableEq, Repr

/-- The current observation of an access point. -/
def observation? (c : Catalogue) (a : Address) : Option Observation :=
  c.observations.find? fun o => o.address == a

def network? (c : Catalogue) (path : String) : Option Network :=
  c.networks.find? fun n => n.path == path

def hasNetwork (c : Catalogue) (path : String) : Bool :=
  c.networks.any fun n => n.path == path

/-- Changes the network with a path. -/
def modify (c : Catalogue) (path : String) (change : Network → Network) : Catalogue :=
  { c with networks := c.networks.map fun n => if n.path = path then change n else n }

/-- The network with an SSID and a security type. -/
def find? (c : Catalogue) (ssid : String) (security : Security) : Option Network :=
  c.network? (networkPath c.device ssid security)

/-- The networks by descending rank, equal ranks in the order of their first appearance. -/
def ranked (c : Catalogue) : List Network :=
  c.networks.mergeSort fun a b => b.rank ≤ a.rank

/-- Drops every network and observation. -/
def clear (c : Catalogue) (reason : RemovalReason) : Catalogue × List Change :=
  ({ c with observations := [], networks := [] }, c.networks.map fun n => .removed n.path reason)

end Catalogue

end WirelessStation
