import WirelessStation.Observation
import WirelessStation.Store

/-! # Networks

A network is every access point with one SSID and one security type.  It keeps its access points by
descending rank, equal ranks in the order in which they came, and it knows which secret to offer:
one that was supplied for the next attempt, or else the stored one unless that has failed. -/

namespace WirelessStation

/-- A moment, in milliseconds. -/
abbrev Moment := Nat

/-- An access point of a network.  The observation itself is found by its address. -/
structure AccessPoint where
  address : Address
  rank : UInt16
  signal : Int
deriving DecidableEq, Repr

def Observation.accessPoint (o : Observation) : AccessPoint :=
  ⟨o.address, o.rank, o.signal⟩

namespace AccessPoint

/-- Puts an access point in front of the first one with a lower rank. -/
def insertRanked (a : AccessPoint) : List AccessPoint → List AccessPoint
  | [] => [a]
  | b :: rest => if b.rank < a.rank then a :: b :: rest else b :: insertRanked a rest

end AccessPoint

/-- A rank times a modifier, cut to 32 bits; the fraction is dropped. -/
def scaleRank (rank : UInt16) (modifier : Float) : UInt32 :=
  (rank.toFloat * modifier).toUInt32

/-- The sum, or the largest number where the sum is larger. -/
def addSaturating (a b : UInt32) : UInt32 :=
  if a.toNat + b.toNat < UInt32.size then a + b else 0xFFFFFFFF

structure Network where
  path : String
  ssid : String
  security : Security
  /-- By descending rank. -/
  accessPoints : List AccessPoint := []
  rank : UInt32 := 0
  firstSeen : Moment
  lastSeen : Moment
  /-- Supplied for the next attempt and not yet known to work. -/
  supplied : Option Settings := none
  /-- The stored secret failed and is not offered again. -/
  distrusted : Bool := false
deriving DecidableEq, Repr

namespace Network

/-- A network without access points, first seen now. -/
def new (path ssid : String) (security : Security) (now : Moment) : Network :=
  { path, ssid, security, firstSeen := now, lastSeen := now }

/-- The access point with the highest rank. -/
def best? (n : Network) : Option AccessPoint :=
  n.accessPoints.head?

def hasAccessPoint (n : Network) (a : Address) : Bool :=
  n.accessPoints.any fun p => p.address == a

/-- The signal of a network that nothing is heard of. -/
def noSignal : Int := -2147483648

/-- The strongest signal. -/
def signal (n : Network) : Int :=
  match n.accessPoints.map (·.signal) with
  | [] => noSignal
  | s :: rest => rest.foldl max s

def seen (now : Moment) (n : Network) : Network :=
  { n with lastSeen := now }

def attach (o : Observation) (n : Network) : Network :=
  { n with accessPoints := o.accessPoint.insertRanked n.accessPoints }

def clearAccessPoints (n : Network) : Network :=
  { n with accessPoints := [] }

/-- The rank of the best access point. -/
def bestRank (n : Network) : UInt16 :=
  (n.best?.map (·.rank)).getD 0

/-- The rank of a network whose best access point has rank `best`.  A known network is scaled by its
modifier and lifted above what an unknown one can reach. -/
def rankFor (best : UInt16) : Option Float → UInt32
  | some modifier => addSaturating (scaleRank best modifier) 65535
  | none => best.toUInt32

def updateRank (modifier : Option Float) (n : Network) : Network :=
  { n with rank := rankFor n.bestRank modifier }

/-- What a store says about the network. -/
def modifierFrom (n : Network) (source : CredentialSource) : Option Float :=
  source.rankModifier n.ssid n.security

/-- Supplies a secret for the next attempt. -/
def supply (settings : Settings) (n : Network) : Network :=
  { n with supplied := some settings }

/-- What to offer on the next attempt. -/
def settings (n : Network) (source : CredentialSource) : Option Settings :=
  match n.supplied with
  | some s => some s
  | none => if n.distrusted then none else source.settings n.ssid n.security

/-- An attempt failed.  On a personal network the secret that it used is trusted no longer. -/
def connectFailed (n : Network) : Network :=
  if n.security ≠ .personal then n
  else
    match n.supplied with
    | some _ => { n with supplied := none }
    | none => { n with distrusted := true }

/-- A supplied secret proved to work: it goes to the store, and what is stored is trusted again. -/
def syncCredentials (n : Network) : Network × List StoreCall :=
  match n.supplied with
  | some s =>
    ({ n with supplied := none, distrusted := false }, [.sync n.security n.ssid s])
  | none => (n, [])

/-- What the store hears when the connection is up. -/
def connectedCall (n : Network) : StoreCall :=
  .markConnected n.ssid n.security

/-- An entry of the list of networks. -/
structure Summary where
  path : String
  name : String
  /-- The strongest signal, cut to sixteen bits. -/
  signal : Int
  security : Security
deriving DecidableEq, Repr

def summary (n : Network) : Summary where
  path := n.path
  name := n.ssid
  signal := max (-32768) (min 32767 n.signal)
  security := n.security

end Network

end WirelessStation
