import WirelessStation.Store.Known

/-! # A credential store that can be made to answer differently

Known networks in memory, with overrides on top: the first override for a network decides what the
store says about its rank.  Everything else is as the known networks have it. -/

namespace WirelessStation.Simulation

/-- What to say about the rank of one network. -/
structure Override where
  ssid : String
  security : Security
  modifier : Option Float

structure Store where
  known : KnownNetworks := {}
  overrides : List Override := []

namespace Store

def rankModifier (s : Store) (ssid : String) (security : Security) : Option Float :=
  match s.overrides.find? fun o => o.ssid == ssid && o.security == security with
  | some o => o.modifier
  | none => s.known.rankModifier ssid security

def source (s : Store) : CredentialSource where
  rankModifier := s.rankModifier
  settings := s.known.settings

def apply (s : Store) (call : StoreCall) : Store :=
  { s with known := s.known.apply call }

def insert (s : Store) (ssid : String) (settings : Settings) : Store :=
  { s with known := s.known.insert ssid settings }

def erase (s : Store) (ssid : String) (security : Security) : Store :=
  { s with known := s.known.erase ssid security }

/-- A store that knows some networks, added in order. -/
def ofList (networks : List (String × Settings)) (overrides : List Override) : Store :=
  networks.foldl (fun s n => s.insert n.1 n.2) { overrides }

/-- What may be done to the known networks from outside. -/
inductive Command where
  | insert (ssid : String) (settings : Settings)
  | forget (ssid : String) (security : Security)
  | modifier (ssid : String) (security : Security)
  | settings (ssid : String) (security : Security)
  | sync (security : Security) (ssid : String) (settings : Settings)
  | mark (ssid : String) (security : Security)

inductive Answer where
  | done
  | flag (b : Bool)
  | modifier (m : Option Float)
  | settings (s : Option Settings)

/-- Carries out a command. -/
def perform (s : KnownNetworks) : Command → Answer × KnownNetworks
  | .insert ssid settings => (.done, s.insert ssid settings)
  | .forget ssid security => (.flag (s.contains ssid security), s.erase ssid security)
  | .modifier ssid security => (.modifier (s.rankModifier ssid security), s)
  | .settings ssid security => (.settings (s.settings ssid security), s)
  | .sync security ssid settings => (.done, s.sync security ssid settings)
  | .mark ssid security => (.done, s.markConnected ssid security)

end Store

end WirelessStation.Simulation
