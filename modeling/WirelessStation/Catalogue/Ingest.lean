import WirelessStation.Catalogue
import WirelessStation.Handshake
import WirelessStation.Text.Utf8

/-! # Taking in a scan

`Catalogue.ingest` replaces the observations by those of a new scan, in five steps:

1. every network loses its access points;
2. of several observations of one address the one with the highest rank stays (`dedup`);
3. each observation that can be placed goes to its network, which is made if it is new (`place`);
4. the access point in use is put back if the scan missed it or heard it under another network
   (`keepPinned`);
5. networks without access points leave, and the others get their ranks (`settle`). -/

namespace WirelessStation

namespace Observation

/-- The most octets of an SSID. -/
def ssidLimit : Nat := 32

/-- Whether the SSID can name a network: short enough, and well-formed text. -/
def hasReadableSsid (ssid : Bytes) : Bool :=
  ssid.length ≤ ssidLimit && (Utf8.decode? ssid).isSome

end Observation

/-- The SSID as text; empty if it is none. -/
def ssidText (ssid : Bytes) : String :=
  (Utf8.decode? ssid).getD ""

namespace Catalogue

/-- Takes an observation into a list without repeated addresses: it replaces the one with its
address if it has a higher rank. -/
def dedupInto (o : Observation) : List Observation → List Observation
  | [] => [o]
  | p :: rest =>
    if p.address = o.address then (if p.rank < o.rank then o else p) :: rest
    else p :: dedupInto o rest

/-- One observation for each address, at the place where the address first appears. -/
def dedup (observations : List Observation) : List Observation :=
  observations.foldl (fun kept o => dedupInto o kept) []

/-- The access point in use and its network. -/
structure Pin where
  network : String
  address : Address
deriving DecidableEq, Repr

/-- What came of a scan. -/
structure Report where
  /-- Observations that went to a network. -/
  accepted : Nat := 0
  /-- Observations that could not be placed. -/
  rejected : Nat := 0
  /-- Whether the access point in use was missing and was carried over. -/
  pinned : Bool := false
deriving DecidableEq, Repr

/-- A scan that is being taken in. -/
structure Intake where
  catalogue : Catalogue
  changes : List Change := []
  report : Report := {}
deriving DecidableEq, Repr

/-- Attaches an observation to its network; its first access point of this scan marks the network as
seen. -/
def attachSeen (now : Moment) (o : Observation) (n : Network) : Network :=
  (if n.accessPoints.isEmpty then n.seen now else n).attach o

/-- Where an observation belongs: its SSID as text and its security type, and the observation with
its SHA-256 mark. -/
def placement? (o : Observation) : Option (String × Security × Observation) :=
  if Observation.hasReadableSsid o.ssid then
    match o.classify with
    | .ok (security, marked) => some (ssidText o.ssid, security, marked)
    | .error _ => none
  else none

/-- Makes sure that a network is there. -/
def ensure (path ssid : String) (security : Security) (now : Moment) (c : Catalogue) :
    Catalogue × List Change :=
  if c.hasNetwork path then (c, [])
  else ({ c with networks := c.networks ++ [.new path ssid security now] }, [.added path])

/-- Places one observation, or counts it as rejected. -/
def place (now : Moment) (i : Intake) (o : Observation) : Intake :=
  match placement? o with
  | none => { i with report := { i.report with rejected := i.report.rejected + 1 } }
  | some (ssid, security, marked) =>
    let path := networkPath i.catalogue.device ssid security
    let (c, changes) := i.catalogue.ensure path ssid security now
    let c := c.modify path (attachSeen now marked)
    { catalogue := { c with observations := c.observations ++ [marked] }
      changes := i.changes ++ changes
      report := { i.report with accepted := i.report.accepted + 1 } }

/-- Puts the access point in use back onto its network.  Says whether its observation had to be
taken from before the scan. -/
def keepPinned (pin : Pin) (previous : List Observation) (c : Catalogue) : Catalogue × Bool :=
  match c.network? pin.network with
  | none => (c, false)
  | some network =>
    match c.observation? pin.address with
    | some o =>
      if network.hasAccessPoint pin.address then (c, false)
      else (c.modify pin.network (Network.attach o), false)
    | none =>
      match previous.find? fun o => o.address == pin.address with
      | none => (c, false)
      | some o =>
        let c := c.modify pin.network (Network.attach o)
        ({ c with observations := c.observations ++ [o] }, true)

/-- Networks without access points leave; the others get their ranks. -/
def settle (source : CredentialSource) (c : Catalogue) : Catalogue × List Change :=
  let gone := c.networks.filter fun n => n.accessPoints.isEmpty
  let kept := c.networks.filter fun n => !n.accessPoints.isEmpty
  ({ c with networks := kept.map fun n => n.updateRank (n.modifierFrom source) },
    gone.map fun n => .removed n.path .outOfRange)

/-- Replaces the observations by those of a new scan. -/
def ingest (observations : List Observation) (pin : Option Pin) (source : CredentialSource)
    (now : Moment) (c : Catalogue) : Intake :=
  let emptied : Catalogue :=
    { c with observations := [], networks := c.networks.map Network.clearAccessPoints }
  let placed := (dedup observations).foldl (place now) { catalogue := emptied }
  let (held, pinned) := match pin with
    | none => (placed.catalogue, false)
    | some p => keepPinned p c.observations placed.catalogue
  let (settled, removed) := held.settle source
  { catalogue := settled
    changes := placed.changes ++ removed
    report := { placed.report with pinned } }

end Catalogue

end WirelessStation
