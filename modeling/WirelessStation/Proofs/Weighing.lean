import WirelessStation.Proofs.Lifting
import WirelessStation.Proofs.Rounds

/-! # The candidates are the known networks by weight

How a rank and a modifier make a weight is nothing that the list of candidates depends on, so the
list is taken apart with any way of weighing (`Candidate.listBy`).  Before it is sorted it has one
entry for each known network, in the order of the ranked view (`Candidate.networks_givenBy`), and
sorting by weight keeps that order among entries of one weight.  What follows from this fixes the
list but for the choice between access points of one rank (`Candidate.Exact`).

* `candidates_exact`: the candidates of every catalogue that an interface can have are exact. -/

namespace WirelessStation

namespace Candidate

/-- The candidate that a network gives, if ranks and modifiers are weighed in some way. -/
def givenBy? (weigh : UInt16 → Float → UInt32) (source : CredentialSource) (n : Network) :
    Option Candidate :=
  match n.modifierFrom source, n.best? with
  | some modifier, some best => some ⟨weigh best.rank modifier, n.path, best.address⟩
  | _, _ => none

/-- The candidates of a catalogue, if ranks and modifiers are weighed in some way. -/
def listBy (weigh : UInt16 → Float → UInt32) (source : CredentialSource) (c : Catalogue) :
    List Candidate :=
  (c.ranked.filterMap (givenBy? weigh source)).mergeSort fun a b => b.weight ≤ a.weight

/-- The candidates as they are: those whose weight is the scaled rank. -/
theorem listBy_scaleRank (source : CredentialSource) (c : Catalogue) :
    listBy scaleRank source c = ofCatalogue source c := rfl

variable {weigh : UInt16 → Float → UInt32} {source : CredentialSource}

theorem givenBy?_eq_some_iff {n : Network} {candidate : Candidate} :
    givenBy? weigh source n = some candidate ↔
      ∃ modifier best, n.modifierFrom source = some modifier ∧ n.best? = some best ∧
        candidate = ⟨weigh best.rank modifier, n.path, best.address⟩ := by
  unfold givenBy?
  constructor
  · intro given
    split at given
    next modifier best known first =>
      exact ⟨modifier, best, known, first, (Option.some.inj given).symm⟩
    next => cases given
  · rintro ⟨modifier, best, known, first, rfl⟩
    simp [known, first]

/-- Networks that all have access points give one candidate for each that is known, in order. -/
theorem networks_givenBy {l : List Network} (heard : ∀ n ∈ l, n.accessPoints ≠ []) :
    (l.filterMap (givenBy? weigh source)).map (·.network) =
      (l.filter (·.isKnownTo source)).map (·.path) := by
  induction l with
  | nil => rfl
  | cons n rest ih =>
    have rest_heard : ∀ m ∈ rest, m.accessPoints ≠ [] :=
      fun m hm => heard m (List.mem_cons_of_mem _ hm)
    cases known : n.modifierFrom source with
    | none =>
      have gives : givenBy? weigh source n = none := by simp [givenBy?, known]
      rw [List.filterMap_cons_none gives, ih rest_heard, List.filter_cons_of_neg]
      simp [Network.isKnownTo, known]
    | some modifier =>
      obtain ⟨best, others, list⟩ := List.exists_cons_of_ne_nil (heard n (List.mem_cons_self ..))
      have first : n.best? = some best := by simp [Network.best?, list]
      have gives :
          givenBy? weigh source n = some ⟨weigh best.rank modifier, n.path, best.address⟩ :=
        givenBy?_eq_some_iff.2 ⟨modifier, best, known, first, rfl⟩
      rw [List.filterMap_cons_some gives, List.map_cons, ih rest_heard, List.filter_cons_of_pos,
        List.map_cons]
      simp [Network.isKnownTo, known]

/-- A list of candidates is the list of the networks that a store knows, with their best access
points, by weight. -/
structure Exact (weigh : UInt16 → Float → UInt32) (source : CredentialSource) (c : Catalogue)
    (l : List Candidate) : Prop where
  /-- No network has two candidates. -/
  nodup : (l.map (·.network)).Nodup
  /-- The networks with a candidate are those that the store knows. -/
  mem_networks_iff : ∀ path, path ∈ l.map (·.network) ↔
    ∃ n ∈ c.networks, n.path = path ∧ (n.modifierFrom source).isSome = true
  /-- A candidate is an access point of its network that none of the others outranks, and has the
  weight of that. -/
  best : ∀ candidate ∈ l, ∃ n ∈ c.networks, candidate.network = n.path ∧
    ∃ p ∈ n.accessPoints, candidate.address = p.address ∧ (∀ q ∈ n.accessPoints, q.rank ≤ p.rank) ∧
      ∃ modifier, n.modifierFrom source = some modifier ∧ candidate.weight = weigh p.rank modifier
  /-- The candidates come by descending weight, -/
  descending : l.Pairwise fun a b => b.weight ≤ a.weight
  /-- and candidates of one weight in the order of the ranked view. -/
  stable : ∀ weight, ((l.filter fun a => a.weight = weight).map (·.network)).Sublist
    (c.ranked.map (·.path))

end Candidate

namespace Catalogue

/-- The candidates of a settled catalogue are exact, however they are weighed. -/
theorem Settled.exact_listBy {c : Catalogue} (h : c.Settled) (weigh : UInt16 → Float → UInt32)
    (source : CredentialSource) :
    Candidate.Exact weigh source c (Candidate.listBy weigh source c) := by
  let given := c.ranked.filterMap (Candidate.givenBy? weigh source)
  have sorted : (Candidate.listBy weigh source c).Perm given := List.mergeSort_perm _ _
  have networks : given.map (·.network) =
      (c.ranked.filter (·.isKnownTo source)).map (·.path) :=
    Candidate.networks_givenBy fun n hn => h.heard n (mem_ranked_iff.1 hn)
  have inOrder : (given.map (·.network)).Sublist (c.ranked.map (·.path)) := by
    rw [networks]
    exact List.filter_sublist.map _
  constructor
  case nodup =>
    have distinct : (c.ranked.map (·.path)).Nodup :=
      ((List.mergeSort_perm c.networks _).map _).nodup_iff.2 h.paths
    exact (sorted.map _).nodup_iff.2 (inOrder.nodup distinct)
  case mem_networks_iff =>
    intro path
    rw [(sorted.map _).mem_iff, networks]
    simp only [List.mem_map, List.mem_filter, mem_ranked_iff, Network.isKnownTo]
    constructor
    · rintro ⟨n, ⟨there, known⟩, named⟩
      exact ⟨n, there, named, known⟩
    · rintro ⟨n, there, named, known⟩
      exact ⟨n, ⟨there, known⟩, named⟩
  case best =>
    intro candidate listed
    obtain ⟨n, ranked, gives⟩ := List.mem_filterMap.1 (sorted.mem_iff.1 listed)
    obtain ⟨modifier, best, known, first, rfl⟩ := Candidate.givenBy?_eq_some_iff.1 gives
    have there : n ∈ c.networks := mem_ranked_iff.1 ranked
    obtain ⟨p, same, lists, highest⟩ :=
      Network.exists_best?_eq_some (h.heard n there) (h.networks n there).descending
    obtain rfl : best = p := Option.some.inj (first.symm.trans same)
    exact ⟨n, there, rfl, best, lists, rfl, highest, modifier, known, rfl⟩
  case descending => exact pairwise_mergeSort_key Candidate.weight given
  case stable =>
    intro weight
    have group : ((Candidate.listBy weigh source c).filter fun a => a.weight = weight) =
        given.filter fun a => a.weight = weight :=
      filter_mergeSort_key Candidate.weight given weight
    rw [group]
    exact (List.filter_sublist.map _).trans inOrder

/-- In whatever way the catalogue of an interface has come about, and whatever a store says now, its
candidates are exact: one for each known network and no other, each with a best access point, by
descending weight and in the order of the ranked view among equals.  That has nothing to do with how
ranks and modifiers make weights. -/
theorem candidates_exact {c : Catalogue} (h : c.Reachable) (source : CredentialSource) :
    Candidate.Exact scaleRank source c (Candidate.ofCatalogue source c) ∧
      ∀ weigh, Candidate.Exact weigh source c (Candidate.listBy weigh source c) := by
  have exact_by := h.settled.exact_listBy
  refine ⟨?_, fun weigh => exact_by weigh source⟩
  rw [← Candidate.listBy_scaleRank]
  exact exact_by scaleRank source

/-- Two of three networks are known.  The one that was joined last has two access points; the better
one weighs as much as the access point of the other, which is stronger and less trusted. -/
theorem candidates_exact_tied :
    let heard := Station.Sample.observation
    let weaker := { heard with address := Station.Sample.interface.address, rank := 3000 }
    let older := { heard with address := ⟨#v[2, 0, 0, 0, 0, 8]⟩, ssid := [0x43], rank := 5556 }
    let stranger := { heard with address := ⟨#v[2, 0, 0, 0, 0, 7]⟩, ssid := [0x42], rank := 9000 }
    let source := KnownNetworks.source
      ⟨[⟨"A", .unsecured, .unsecured⟩, ⟨"C", .unsecured, .unsecured⟩]⟩
    let c := ({ device := "/net/connman/iwd/0/3" } : Catalogue).renew
      (.ingest [weaker, heard, older, stranger] none source 0)
    let candidates := Candidate.ofCatalogue source c
    c.Reachable ∧
      c.networks.map (fun n => (n.ssid, n.isKnownTo source)) =
        [("A", true), ("C", true), ("B", false)] ∧
      candidates =
        [⟨5000, "/net/connman/iwd/0/3/41_open", heard.address⟩,
          ⟨5000, "/net/connman/iwd/0/3/43_open", older.address⟩] ∧
      Candidate.Exact scaleRank source c candidates := by
  intro heard weaker older stranger source c candidates
  have reachable : c.Reachable := .renew (.new _) _
  have known : c.networks.map (fun n => (n.ssid, n.isKnownTo source)) =
      [("A", true), ("C", true), ("B", false)] := by decide +kernel
  have tied : candidates = c.networks.filterMap (Candidate.ofNetwork? source) :=
    Candidate.ofCatalogue_eq (by decide +kernel) (by decide +kernel)
  refine ⟨reachable, known, ?_, (candidates_exact reachable source).1⟩
  rw [tied]
  decide +kernel

end Catalogue

end WirelessStation
