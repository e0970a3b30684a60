import WirelessStation.Autoconnect
import WirelessStation.Catalogue.Tables
import WirelessStation.Simulation.Store

/-! # A network and a catalogue by themselves

Commands on one network, and commands on a catalogue with its candidates, each next to a credential
store. -/

namespace WirelessStation.Simulation

/-! ### One network -/

structure NetworkBench where
  network : Network
  store : Store

namespace NetworkBench

inductive Command where
  | attach (o : Observation)
  | clear
  | seen (now : Moment)
  | updateRank (modifier : Option Float)
  /-- Updates the rank with what the store says. -/
  | storeRank
  | supply (settings : Settings)
  | settings
  | connectFailed
  | sync
  | connected
  | forget
  | contains (a : Address)
  | known

inductive Answer where
  | done
  | flag (b : Bool)
  | settings (s : Option Settings)
  | known (listing : List (String × Security))

/-- Carries out a command; says also what the store was told. -/
def perform (b : NetworkBench) (command : Command) : Answer × List StoreCall × NetworkBench :=
  let n := b.network
  match command with
  | .attach o => (.done, [], { b with network := n.attach o })
  | .clear => (.done, [], { b with network := n.clearAccessPoints })
  | .seen now => (.done, [], { b with network := n.seen now })
  | .updateRank modifier => (.done, [], { b with network := n.updateRank modifier })
  | .storeRank => (.done, [], { b with network := n.updateRank (n.modifierFrom b.store.source) })
  | .supply settings => (.done, [], { b with network := n.supply settings })
  | .settings => (.settings (n.settings b.store.source), [], b)
  | .connectFailed => (.done, [], { b with network := n.connectFailed })
  | .sync =>
    let (n, calls) := n.syncCredentials
    (.done, calls, ⟨n, calls.foldl Store.apply b.store⟩)
  | .connected => (.done, [n.connectedCall], { b with store := b.store.apply n.connectedCall })
  | .forget =>
    (.flag (b.store.known.contains n.ssid n.security), [],
      { b with store := b.store.erase n.ssid n.security })
  | .contains a => (.flag (n.hasAccessPoint a), [], b)
  | .known => (.known b.store.known.listing, [], b)

end NetworkBench

/-! ### One catalogue -/

structure CatalogueBench where
  catalogue : Catalogue.Tables
  candidates : List Candidate := []
  store : Store

namespace CatalogueBench

inductive Command where
  | ingest (observations : List Observation) (now : Moment) (pin : Option Catalogue.Pin)
  | clear (reason : RemovalReason)
  | find (ssid : String) (security : Security)
  | get (path : String)
  | observation (a : Address)
  /-- An attempt on a network failed. -/
  | fail (path : String)
  | settings (path : String)
  | insert (ssid : String) (settings : Settings)
  | mark (ssid : String) (security : Security)
  | forget (ssid : String) (security : Security)
  | rebuildCandidates
  | takeCandidate
  | dropCandidates

inductive Answer where
  | done
  | report (r : Catalogue.Report)
  | path (p : Option String)
  | network (n : Option Network)
  | observation (o : Option Observation)
  | flag (b : Bool)
  | settings (s : Option Settings)
  | candidate (c : Option Candidate)

/-- Carries out a command; says also how the set of networks changed. -/
def perform (b : CatalogueBench) (command : Command) :
    Answer × List Catalogue.Change × CatalogueBench :=
  match command with
  | .ingest observations now pin =>
    let intake := b.catalogue.ingest observations pin b.store.source now
    (.report intake.report, intake.changes, { b with catalogue := intake.tables })
  | .clear reason =>
    let (catalogue, changes) := b.catalogue.clear reason
    (.done, changes, { b with catalogue })
  | .find ssid security => (.path ((b.catalogue.find? ssid security).map (·.path)), [], b)
  | .get path => (.network (b.catalogue.network? path), [], b)
  | .observation a => (.observation (b.catalogue.observation? a), [], b)
  | .fail path =>
    (.flag (b.catalogue.hasNetwork path), [],
      { b with catalogue := b.catalogue.modify path Network.connectFailed })
  | .settings path =>
    (.settings ((b.catalogue.network? path).bind fun n => n.settings b.store.source), [], b)
  | .insert ssid settings => (.done, [], { b with store := b.store.insert ssid settings })
  | .mark ssid security =>
    (.done, [], { b with store := b.store.apply (.markConnected ssid security) })
  | .forget ssid security =>
    (.flag (b.store.known.contains ssid security), [],
      { b with store := b.store.erase ssid security })
  | .rebuildCandidates =>
    let candidates := Candidate.ofCatalogue b.store.source b.catalogue.view
    (.flag candidates.isEmpty, [], { b with candidates })
  | .takeCandidate =>
    (.candidate b.candidates.head?, [], { b with candidates := b.candidates.tail })
  | .dropCandidates => (.done, [], { b with candidates := [] })

end CatalogueBench

end WirelessStation.Simulation
