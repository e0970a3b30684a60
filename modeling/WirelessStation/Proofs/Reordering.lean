import WirelessStation.Proofs.Grouping
import WirelessStation.Proofs.Strongest

/-! # The order in which a scan comes

Observations of distinct addresses may come in any order.  What is heard of each network is the same
then, and so is everything but the order in which networks are first heard and the order of access
points of one rank.

* `heard_perm`: what is placed is the same, in another order.
* `newHomes_perm`, `carried_perm`, `gathered_perm`: so is what follows from it, step by step.
* `ingest_perm`: two such scans leave catalogues that differ in these orders alone (`Reordered`),
  with the same changes in another order and the same report. -/

namespace WirelessStation

/-- What is looked up by a key that no other entry has is found wherever it is. -/
theorem find?_key_of_perm {α β : Type} [BEq β] [LawfulBEq β] {key : α → β} {l m : List α}
    (perm : l.Perm m) (distinct : (l.map key).Nodup) (k : β) :
    (l.find? fun x => key x == k) = m.find? fun x => key x == k := by
  by_cases there : k ∈ l.map key
  · obtain ⟨x, hx, rfl⟩ := List.mem_map.1 there
    have distinct' : (m.map key).Nodup := (perm.map key).nodup_iff.1 distinct
    rw [Catalogue.find?_key_of_mem distinct hx, Catalogue.find?_key_of_mem distinct'
      (perm.mem_iff.1 hx)]
  · have nowhere : k ∉ m.map key := mt (perm.map key).mem_iff.2 there
    have none (l : List α) (h : k ∉ l.map key) : (l.find? fun x => key x == k) = none := by
      simpa using h
    rw [none l there, none m nowhere]

namespace Network

/-- Two states of a network that differ at most in the order of access points of one rank. -/
structure Reordered (n n' : Network) : Prop where
  eq : n' = { n with accessPoints := n'.accessPoints }
  accessPoints : n.accessPoints.Perm n'.accessPoints
  descending : n.accessPoints.Pairwise fun p q => q.rank ≤ p.rank
  descending' : n'.accessPoints.Pairwise fun p q => q.rank ≤ p.rank

/-- The best of a network's ranks is the first of them. -/
theorem bestRank_eq (n : Network) : n.bestRank = ((n.accessPoints.map (·.rank)).head?).getD 0 := by
  rw [bestRank, best?, List.head?_map]

/-- A network that lists the same in another order has the same rank. -/
theorem reordered_regrouped (n : Network) (source : CredentialSource) (now : Moment)
    {heard heard' listed listed' : List Observation} (perm : heard.Perm heard')
    (lists : listed.Perm listed') :
    (n.regrouped source now heard listed).Reordered (n.regrouped source now heard' listed') := by
  let points := listed.map Observation.accessPoint
  let points' := listed'.map Observation.accessPoint
  have accessPoints : (AccessPoint.byRank points).Perm (AccessPoint.byRank points') :=
    (AccessPoint.byRank_perm points).trans
      ((lists.map Observation.accessPoint).trans (AccessPoint.byRank_perm points').symm)
  have descending := pairwise_mergeSort_key AccessPoint.rank points
  have descending' := pairwise_mergeSort_key AccessPoint.rank points'
  have ranks : (AccessPoint.byRank points).map (·.rank) =
      (AccessPoint.byRank points').map (·.rank) :=
    map_key_eq_of_perm descending descending' (accessPoints.map _)
  have best : (n.listing now heard listed).bestRank = (n.listing now heard' listed').bestRank := by
    rw [bestRank_eq, bestRank_eq]
    exact congrArg (fun l => (List.head? l).getD 0) ranks
  have seen : (n.members heard).isEmpty = (n.members heard').isEmpty := (perm.filter _).isEmpty_eq
  have listing_eq : n.listing now heard' listed' =
      { n.listing now heard listed with accessPoints := AccessPoint.byRank points' } := by
    unfold listing
    rw [seen]
  refine ⟨?_, accessPoints, descending, descending'⟩
  unfold regrouped updateRank
  rw [← best, listing_eq]

end Network

namespace Catalogue

/-- Two catalogues that differ at most in the order of their observations and networks and in the
order of access points of one rank. -/
structure Reordered (c d : Catalogue) : Prop where
  device_eq : d.device = c.device
  observations : c.observations.Perm d.observations
  /-- The networks are the same, each with the same access points. -/
  networks : ∃ l, c.networks.Perm l ∧ List.Forall₂ Network.Reordered l d.networks
  /-- The ranked views have the same ranks in the same places, -/
  ranks_eq : c.ranked.map (·.rank) = d.ranked.map (·.rank)
  /-- and the same networks of each rank. -/
  ranked_perm : ∀ rank, ((c.ranked.filter fun n => n.rank = rank).map (·.path)).Perm
    ((d.ranked.filter fun n => n.rank = rank).map (·.path))

open scoped List in
/-- The ranked views follow the networks. -/
theorem Reordered.of_networks {c d : Catalogue} {l : List Network} (device : d.device = c.device)
    (observations : c.observations.Perm d.observations) (perm : c.networks.Perm l)
    (same : List.Forall₂ Network.Reordered l d.networks) : c.Reordered d := by
  have keys : (l.map fun n => (n.rank, n.path)) = d.networks.map fun n => (n.rank, n.path) := by
    refine map_eq_of_forall₂ same ?_
    intro n n' h
    rw [h.eq]
  have ranked (c : Catalogue) : c.ranked.Perm c.networks := List.mergeSort_perm c.networks _
  refine ⟨device, observations, ⟨l, perm, same⟩, ?_, ?_⟩
  · have ranks : l.map (·.rank) = d.networks.map (·.rank) := by
      simpa [Function.comp_def] using congrArg (List.map Prod.fst) keys
    refine map_key_eq_of_perm (pairwise_mergeSort_key Network.rank c.networks)
      (pairwise_mergeSort_key Network.rank d.networks) ?_
    calc c.ranked.map (·.rank)
      _ ~ c.networks.map (·.rank) := (ranked c).map _
      _ ~ l.map (·.rank) := perm.map _
      _ = d.networks.map (·.rank) := ranks
      _ ~ d.ranked.map (·.rank) := (ranked d).symm.map _
  · intro rank
    have paths : (l.filter fun n => n.rank = rank).map (·.path) =
        (d.networks.filter fun n => n.rank = rank).map (·.path) := by
      have chosen := congrArg (List.map Prod.snd) (congrArg (List.filter fun k => k.1 = rank) keys)
      simpa [List.filter_map, Function.comp_def] using chosen
    calc (c.ranked.filter fun n => n.rank = rank).map (·.path)
      _ ~ (c.networks.filter fun n => n.rank = rank).map (·.path) := ((ranked c).filter _).map _
      _ ~ (l.filter fun n => n.rank = rank).map (·.path) := (perm.filter _).map _
      _ = (d.networks.filter fun n => n.rank = rank).map (·.path) := paths
      _ ~ (d.ranked.filter fun n => n.rank = rank).map (·.path) :=
        ((ranked d).symm.filter _).map _

/-! ### What is heard -/

theorem heard_perm {l l' : List Observation} (perm : l.Perm l')
    (distinct : (l.map (·.address)).Nodup) : (heard l).Perm (heard l') := by
  have distinct' : (l'.map (·.address)).Nodup := (perm.map _).nodup_iff.1 distinct
  rw [heard, heard, dedup_of_nodup distinct, dedup_of_nodup distinct']
  exact (perm.filter _).map _

section

variable {c : Catalogue} {heard heard' : List Observation} (perm : heard.Perm heard')
  (pin : Option Pin) (now : Moment)

include perm

variable (c) in
theorem newHomes_perm : (c.newHomes heard).Perm (c.newHomes heard') := by
  rw [newHomes, newHomes, List.perm_ext_iff_of_nodup (nodup_eraseDups _) (nodup_eraseDups _)]
  intro home
  rw [List.mem_eraseDups, List.mem_eraseDups, List.mem_filter, List.mem_filter,
    (perm.map Observation.home).mem_iff]

variable (c) in
theorem known_perm : (c.known now heard).Perm (c.known now heard') :=
  ((newHomes_perm c perm).map _).append_left _

variable (c) in
theorem carried_perm : c.carried pin now heard = c.carried pin now heard' := by
  cases pin with
  | none => rfl
  | some p =>
    have known := (known_perm c perm now).map (·.path)
    simp only [carried, known.mem_iff, (perm.map (·.address)).mem_iff]

variable (c) in
theorem current_perm : (c.current pin now heard).Perm (c.current pin now heard') := by
  rw [current, current, carried_perm c perm]
  exact perm.append_right _

omit perm in
variable (c) in
/-- After a scan no address is observed twice. -/
theorem nodup_current (distinct : (heard.map (·.address)).Nodup) :
    ((c.current pin now heard).map (·.address)).Nodup := by
  rw [current, List.map_append]
  cases pin with
  | none => simpa [carried] using distinct
  | some p =>
    cases carries : c.carried (some p) now heard with
    | none => simpa using distinct
    | some o =>
      obtain ⟨_, missing, before⟩ := carried_eq_some_iff.1 carries
      have address : o.address = p.address := address_of_observation? before
      rw [Option.toList_some, List.map_singleton, ← List.concat_eq_append, address]
      exact distinct.concat missing

variable (c) in
/-- A network lists the same, since the access point in use is found wherever it is. -/
theorem gathered_perm (distinct : (heard.map (·.address)).Nodup) (n : Network) :
    (n.gathered pin heard (c.current pin now heard)).Perm
      (n.gathered pin heard' (c.current pin now heard')) := by
  have members : (n.members heard).Perm (n.members heard') := perm.filter _
  have back : n.putBack pin heard (c.current pin now heard) =
      n.putBack pin heard' (c.current pin now heard') := by
    cases pin with
    | none => rfl
    | some p =>
      have found := find?_key_of_perm (current_perm c perm (some p) now)
        (nodup_current c (some p) now distinct) p.address
      simp only [Network.putBack, found, (members.map (·.address)).mem_iff]
  rw [Network.gathered, Network.gathered, back]
  exact members.append_right _

variable (c) in
theorem gathered_eq_nil_iff (distinct : (heard.map (·.address)).Nodup) (n : Network) :
    n.gathered pin heard (c.current pin now heard) = [] ↔
      n.gathered pin heard' (c.current pin now heard') = [] := by
  have lists := gathered_perm c perm pin now distinct n
  rw [← List.length_eq_zero_iff, lists.length_eq, List.length_eq_zero_iff]

variable (c) in
theorem regrouped_perm (distinct : (heard.map (·.address)).Nodup) (source : CredentialSource) :
    (c.regrouped heard pin source now).Reordered (c.regrouped heard' pin source now) := by
  let lists (n : Network) := n.gathered pin heard (c.current pin now heard)
  let lists' (n : Network) := n.gathered pin heard' (c.current pin now heard')
  let kept := (c.known now heard').filter fun n => lists' n ≠ []
  -- In between: the networks in the one order, listing access points in the other.
  let between := kept.map fun n => n.regrouped source now heard (lists n)
  have stays : ((c.known now heard').filter fun n => lists n ≠ []) = kept := by
    refine List.filter_congr fun n _ => decide_eq_decide.2 (not_congr ?_)
    exact gathered_eq_nil_iff c perm pin now distinct n
  have networks : (c.regrouped heard pin source now).networks.Perm between := by
    show (((c.known now heard).filter fun n => lists n ≠ []).map _).Perm (kept.map _)
    rw [← stays]
    exact ((known_perm c perm now).filter _).map _
  have same : List.Forall₂ Network.Reordered between
      (c.regrouped heard' pin source now).networks := by
    show List.Forall₂ _ (kept.map _) (kept.map _)
    rw [List.forall₂_map_left_iff, List.forall₂_map_right_iff, List.forall₂_same]
    intro n _
    exact n.reordered_regrouped source now perm (gathered_perm c perm pin now distinct n)
  exact .of_networks rfl (current_perm c perm pin now) networks same

end

/-- In whatever way the catalogue of an interface has come about, a scan that hears no address twice
may come in any order: the catalogue is the same up to the order of its networks and of access
points of one rank, with the same changes in some order and the same report. -/
theorem ingest_perm {c : Catalogue} (h : c.Reachable) {l l' : List Observation} (perm : l.Perm l')
    (distinct : (l.map (·.address)).Nodup) (pin : Option Pin) (source : CredentialSource)
    (now : Moment) :
    let i := c.ingest l pin source now
    let i' := c.ingest l' pin source now
    i.catalogue.Reordered i'.catalogue ∧ i.changes.Perm i'.changes ∧ i.report = i'.report := by
  intro i i'
  have named : c.Named := h.settled.toFiled.named
  have distinct' : (l'.map (·.address)).Nodup := (perm.map _).nodup_iff.1 distinct
  have heard : (heard l).Perm (heard l') := heard_perm perm distinct
  have addresses : ((Catalogue.heard l).map (·.address)).Nodup := nodup_heard l
  have leaves := gathered_eq_nil_iff c heard pin now addresses
  simp only [i, i', ingest_eq named]
  refine ⟨regrouped_perm c heard pin now addresses source, ?changes, ?report⟩
  case changes =>
    simp only [leaves]
    exact ((newHomes_perm c heard).map _).append_right _
  case report =>
    have rejected := (perm.filter fun o => !o.isPlaceable).length_eq
    rw [heard.length_eq, carried_perm c heard, dedup_of_nodup distinct, dedup_of_nodup distinct',
      rejected]

/-- Networks are created in the order in which they are heard. -/
theorem ingest_perm_tied :
    let a := Station.Sample.observation
    let b := { a with address := Station.Sample.interface.address, ssid := [0x42] }
    let c : Catalogue := { device := "/net/connman/iwd/0/3" }
    let source := (Station.Sample.surroundings true).store
    let i := c.ingest [a, b] none source 0
    let i' := c.ingest [b, a] none source 0
    [a, b].Perm [b, a] ∧ ([a, b].map (·.address)).Nodup ∧
      i.catalogue.networks.map (·.ssid) = ["A", "B"] ∧
      i'.catalogue.networks.map (·.ssid) = ["B", "A"] ∧
      i.catalogue.Reordered i'.catalogue ∧ i.changes.Perm i'.changes ∧ i.report = i'.report := by
  intro a b c source i i'
  have swap : [a, b].Perm [b, a] := .swap b a []
  have distinct : ([a, b].map (·.address)).Nodup := by decide
  have created : i.catalogue.networks.map (·.ssid) = ["A", "B"] := by decide +kernel
  have created' : i'.catalogue.networks.map (·.ssid) = ["B", "A"] := by decide +kernel
  exact ⟨swap, distinct, created, created', ingest_perm (.new _) swap distinct none source 0⟩

end Catalogue

end WirelessStation
