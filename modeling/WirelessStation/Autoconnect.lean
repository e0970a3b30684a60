import WirelessStation.Catalogue

/-! # Candidates of autoconnect

After a scan an idle interface in autoconnect mode tries the known networks in range.  Each of them
gives one candidate, its best access point, weighted by what the store says of the network.
Candidates come by descending weight, equal weights in the order of the catalogue's ranked view. -/

namespace WirelessStation

/-- One attempt that may be made. -/
structure Candidate where
  /-- The rank of the access point times the modifier of the network. -/
  weight : UInt32
  network : String
  address : Address
deriving DecidableEq, Repr

namespace Candidate

/-- The candidate that a network gives: none if it is unknown. -/
def ofNetwork? (source : CredentialSource) (n : Network) : Option Candidate :=
  match n.modifierFrom source, n.best? with
  | some modifier, some best => some ⟨scaleRank best.rank modifier, n.path, best.address⟩
  | _, _ => none

/-- The candidates of a catalogue, best first. -/
def ofCatalogue (source : CredentialSource) (c : Catalogue) : List Candidate :=
  (c.ranked.filterMap (ofNetwork? source)).mergeSort fun a b => b.weight ≤ a.weight

end Candidate

end WirelessStation
