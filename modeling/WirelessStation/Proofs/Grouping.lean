import WirelessStation.Proofs.Placing

/-! # Taking in a scan is grouping

Once the observations of a scan are placed, the access point in use is put back onto its network,
and networks that list nothing leave.  Together with the placing this comes to a grouping of what
was heard, which is stated without the order in which the work is done.

* `keepPinned_placed`: the access point in use goes back onto its network if nothing was heard of it
  there, as it was heard elsewhere or else as it was observed before (`Network.putBack`).
* `gathered_ne_nil_iff`: a network stays if something was heard of it or the access point in use is
  on it.
* `ingest_eq`: the catalogue, the changes and the report of a scan in closed form.
* `ingest_groups`: every part of this (`Grouped`) for every catalogue that an interface can have. -/

namespace WirelessStation

/-! ### The access point in use -/

namespace Network

/-- The observation of the access point in use, if that goes back onto the network: it is the
network in use, and the access point is not among what was heard of it. -/
def putBack (n : Network) (pin : Option Catalogue.Pin) (heard current : List Observation) :
    Option Observation :=
  match pin with
  | none => none
  | some p =>
    if n.path = p.network ∧ p.address ∉ (n.members heard).map (·.address) then
      current.find? fun o => o.address == p.address
    else none

/-- What a network lists after a scan: what was heard of it, and then the access point in use if
that goes back onto it. -/
def gathered (n : Network) (pin : Option Catalogue.Pin) (heard current : List Observation) :
    List Observation :=
  n.members heard ++ (n.putBack pin heard current).toList

theorem members_eq_nil_iff {n : Network} {heard : List Observation} :
    n.members heard = [] ↔ n.home ∉ heard.map Observation.home := by
  simp [members, List.filter_eq_nil_iff]

theorem lastSeen_listing (n : Network) (now : Moment) (heard listed : List Observation) :
    (n.listing now heard listed).lastSeen =
      if n.home ∈ heard.map Observation.home then now else n.lastSeen := by
  by_cases home : n.home ∈ heard.map Observation.home
  · simp [listing, List.isEmpty_iff, members_eq_nil_iff, home]
  · simp [listing, List.isEmpty_iff, members_eq_nil_iff, home]

theorem attach_listing (n : Network) (now : Moment) (heard listed : List Observation)
    (o : Observation) :
    (n.listing now heard listed).attach o = n.listing now heard (listed ++ [o]) := by
  have sorted := o.accessPoint.insertRanked_byRank (listed.map Observation.accessPoint)
  simp [attach, listing, sorted]

theorem hasAccessPoint_listing (n : Network) (now : Moment) (heard listed : List Observation)
    (a : Address) :
    (n.listing now heard listed).hasAccessPoint a = true ↔ a ∈ listed.map (·.address) := by
  have perm := AccessPoint.byRank_perm (listed.map Observation.accessPoint)
  rw [hasAccessPoint, listing, perm.any_eq]
  simp [Observation.accessPoint]

end Network

namespace Catalogue

/-- The observation of the access point in use, if it has to be carried over: its network is known
and nothing was heard of it. -/
def carried (c : Catalogue) (pin : Option Pin) (now : Moment) (heard : List Observation) :
    Option Observation :=
  match pin with
  | none => none
  | some p =>
    if p.network ∈ (c.known now heard).map (·.path) ∧ p.address ∉ heard.map (·.address) then
      c.observation? p.address
    else none

theorem carried_eq_some_iff {c : Catalogue} {p : Pin} {now : Moment} {heard : List Observation}
    {o : Observation} :
    c.carried (some p) now heard = some o ↔
      p.network ∈ (c.known now heard).map (·.path) ∧ p.address ∉ heard.map (·.address) ∧
        c.observation? p.address = some o := by
  rw [carried, Option.ite_none_right_eq_some, and_assoc]

/-- The observations after a scan: those that were placed, and the one that is carried over. -/
def current (c : Catalogue) (pin : Option Pin) (now : Moment) (heard : List Observation) :
    List Observation :=
  heard ++ (c.carried pin now heard).toList

/-- The catalogue once the access point in use is back on its network. -/
def held (c : Catalogue) (pin : Option Pin) (now : Moment) (heard : List Observation) : Catalogue :=
  { c with
    observations := c.current pin now heard
    networks := (c.known now heard).map fun n =>
      n.listing now heard (n.gathered pin heard (c.current pin now heard)) }

variable {c : Catalogue} {now : Moment} {heard : List Observation} {p : Pin}

/-- Networks of one name have heard the same. -/
theorem members_eq_of_path (named : c.Named) {n n' : Network} (hn : n ∈ c.known now heard)
    (hn' : n' ∈ c.known now heard) (same : n.path = n'.path) :
    n.members heard = n'.members heard := by
  have home : n'.home = n.home := (named.path_eq_iff hn n'.home).1 (same.trans (named.known hn'))
  rw [Network.members, Network.members, home]

/-- Nothing is put back where no network takes it. -/
theorem placed_eq_held (none : c.carried (some p) now heard = none)
    (same : ∀ n ∈ c.known now heard, n.putBack (some p) heard heard = Option.none) :
    c.placed now heard = c.held (some p) now heard := by
  have current : c.current (some p) now heard = heard := by simp [Catalogue.current, none]
  refine Catalogue.ext rfl current.symm ?_
  refine List.map_congr_left fun n hn => ?_
  rw [current, Network.gathered, same n hn, Option.toList_none, List.append_nil]

/-- Without an access point in use nothing is put back. -/
theorem held_none (c : Catalogue) (now : Moment) (heard : List Observation) :
    c.held none now heard = c.placed now heard := by
  refine Catalogue.ext rfl (List.append_nil _) (List.map_congr_left fun n _ => ?_)
  exact congrArg (n.listing now heard) (List.append_nil _)

/-- The access point in use is attached to the networks that take it. -/
theorem modify_attach_placed {o : Observation} {observations : List Observation}
    (current : c.current (some p) now heard = observations)
    (back : ∀ n ∈ c.known now heard,
      n.putBack (some p) heard observations = if n.path = p.network then some o else none) :
    { c.placed now heard with observations }.modify p.network (Network.attach o) =
      c.held (some p) now heard := by
  refine Catalogue.ext rfl current.symm ?_
  show ((c.known now heard).map _).map _ = (c.known now heard).map _
  rw [List.map_map]
  refine List.map_congr_left fun n hn => ?_
  rw [Function.comp_apply, Network.path_listing, current, Network.gathered, back n hn]
  by_cases here : n.path = p.network
  · rw [if_pos here, if_pos here, Network.attach_listing]
    rfl
  · rw [if_neg here, if_neg here, Option.toList_none, List.append_nil]

theorem keepPinned_placed (named : c.Named) (p : Pin) :
    keepPinned p c.observations (c.placed now heard) =
      (c.held (some p) now heard, (c.carried (some p) now heard).isSome) := by
  have found : (c.placed now heard).network? p.network =
      ((c.known now heard).find? fun n => n.path == p.network).map fun n =>
        n.listing now heard (n.members heard) := by
    simp [network?, placed, List.find?_map, Function.comp_def]
  have heard_eq : (c.placed now heard).observation? p.address =
      heard.find? fun o => o.address == p.address := rfl
  unfold keepPinned
  rw [found, heard_eq]
  cases known : (c.known now heard).find? fun n => n.path == p.network with
  | none =>
    have unknown : ∀ n ∈ c.known now heard, n.path ≠ p.network := by simpa using known
    have outside : p.network ∉ (c.known now heard).map (·.path) := by simpa using unknown
    have nothing : c.carried (some p) now heard = none := by
      rw [carried, if_neg fun h => outside h.1]
    have same := placed_eq_held nothing fun n hn => by simp [Network.putBack, unknown n hn]
    rw [nothing, ← same]
    rfl
  | some n =>
    have there : n ∈ c.known now heard := List.mem_of_find?_eq_some known
    have here : n.path = p.network := by simpa using List.find?_some known
    have alike : ∀ m ∈ c.known now heard, m.path = p.network → m.members heard = n.members heard :=
      fun m hm home => members_eq_of_path named hm there (home.trans here.symm)
    cases found : heard.find? fun o => o.address == p.address with
    | some o =>
      have listed : p.address ∈ heard.map (·.address) :=
        List.mem_map.2 ⟨o, List.mem_of_find?_eq_some found, address_of_observation? found⟩
      have nothing : c.carried (some p) now heard = none := by
        rw [carried, if_neg fun h => h.2 listed]
      have current : c.current (some p) now heard = heard := by simp [Catalogue.current, nothing]
      rw [nothing]
      simp only [Option.map_some]
      by_cases lists : p.address ∈ (n.members heard).map (·.address)
      · rw [if_pos ((n.hasAccessPoint_listing ..).2 lists)]
        refine congrArg (·, false) (placed_eq_held nothing fun m hm => ?_)
        rw [Network.putBack, if_neg]
        rintro ⟨home, lacks⟩
        exact lacks (alike m hm home ▸ lists)
      · rw [if_neg (mt (n.hasAccessPoint_listing ..).1 lists)]
        refine congrArg (·, false) (modify_attach_placed current fun m hm => ?_)
        by_cases home : m.path = p.network
        · rw [Network.putBack, alike m hm home, if_pos ⟨home, lists⟩, if_pos home, found]
        · rw [Network.putBack, if_neg fun h => home h.1, if_neg home]
    | none =>
      have missing : p.address ∉ heard.map (·.address) := by simpa using found
      have carried : c.carried (some p) now heard = c.observation? p.address := by
        rw [carried, if_pos ⟨List.mem_map.2 ⟨n, there, here⟩, missing⟩]
      have lacks : ∀ m : Network, p.address ∉ (m.members heard).map (·.address) := by
        intro m lists
        exact missing ((List.filter_sublist.map _).subset lists)
      rw [carried, observation?]
      cases previous : c.observations.find? fun o => o.address == p.address with
      | none =>
        rw [observation?, previous] at carried
        refine congrArg (·, false) (placed_eq_held carried fun m hm => ?_)
        rw [Network.putBack, found]
        split <;> rfl
      | some o =>
        rw [observation?, previous] at carried
        have current : c.current (some p) now heard = heard ++ [o] := by
          rw [Catalogue.current, carried, Option.toList_some]
        refine congrArg (·, true) (modify_attach_placed current fun m hm => ?_)
        have again : (heard ++ [o]).find? (fun o => o.address == p.address) = some o := by
          rw [List.find?_append, found, Option.none_or]
          simp [address_of_observation? previous]
        show m.putBack (some p) heard (heard ++ [o]) = _
        by_cases home : m.path = p.network
        · rw [Network.putBack, if_pos ⟨home, lacks m⟩, if_pos home, again]
        · rw [Network.putBack, if_neg fun h => home h.1, if_neg home]

/-! ### Networks that are left -/

/-- After a scan there is an observation of the access point in use if it was heard or if there was
one before. -/
theorem isSome_find?_current (known : p.network ∈ (c.known now heard).map (·.path)) :
    ((c.current (some p) now heard).find? fun o => o.address == p.address).isSome = true ↔
      p.address ∈ heard.map (·.address) ∨ (c.observation? p.address).isSome = true := by
  by_cases listed : p.address ∈ heard.map (·.address)
  · have found : (heard.find? fun o => o.address == p.address).isSome = true := by
      simpa using listed
    rw [current, List.find?_append, Option.isSome_or, found]
    simp [listed]
  · have missing : heard.find? (fun o => o.address == p.address) = none := by simpa using listed
    have carried : c.carried (some p) now heard = c.observation? p.address := by
      rw [carried, if_pos ⟨known, listed⟩]
    rw [current, List.find?_append, missing, Option.none_or, carried]
    cases before : c.observation? p.address with
    | none => simp [listed]
    | some o => simp [address_of_observation? before]

/-- Whether the scan leaves the access point in use on the network with an SSID and a security type:
it is the network in use, and the access point was heard or had been observed before. -/
def Keeps (c : Catalogue) (pin : Option Pin) (heard : List Observation)
    (home : String × Security) : Prop :=
  ∃ p ∈ pin, p.network = networkPath c.device home.1 home.2 ∧
    (p.address ∈ heard.map (·.address) ∨ (c.observation? p.address).isSome = true)

instance (c : Catalogue) (pin : Option Pin) (heard : List Observation)
    (home : String × Security) : Decidable (c.Keeps pin heard home) :=
  inferInstanceAs (Decidable (∃ p ∈ pin, p.network = networkPath c.device home.1 home.2 ∧
    (p.address ∈ heard.map (·.address) ∨ (c.observation? p.address).isSome = true)))

/-- A network that is known lists something exactly if something was heard of it or the access point
in use is on it. -/
theorem gathered_ne_nil_iff (named : c.Named) (pin : Option Pin) {n : Network}
    (hn : n ∈ c.known now heard) :
    n.gathered pin heard (c.current pin now heard) ≠ [] ↔
      n.home ∈ heard.map Observation.home ∨ c.Keeps pin heard n.home := by
  rw [Network.gathered, ne_eq, List.append_eq_nil_iff, Option.toList_eq_nil_iff,
    Network.members_eq_nil_iff]
  by_cases home : n.home ∈ heard.map Observation.home
  · simp [home]
  · have lists : n.members heard = [] := Network.members_eq_nil_iff.2 home
    simp only [home, not_false_eq_true, true_and, false_or]
    cases pin with
    | none => simp [Network.putBack, Keeps]
    | some p =>
      have own : networkPath c.device n.home.1 n.home.2 = n.path := (named.known hn).symm
      have there : n.path ∈ (c.known now heard).map (·.path) := List.mem_map_of_mem hn
      by_cases here : n.path = p.network
      · have back : n.putBack (some p) heard (c.current (some p) now heard) =
            (c.current (some p) now heard).find? fun o => o.address == p.address := by
          simp [Network.putBack, here, lists]
        rw [back, ← ne_eq, ← Option.isSome_iff_ne_none, isSome_find?_current (here ▸ there)]
        simp [Keeps, own, here]
      · have other : p.network ≠ n.path := fun h => here h.symm
        simp [Network.putBack, Keeps, own, here, other]

/-! ### The scan as a whole -/

end Catalogue

namespace Network

/-- A network after a scan: with what it lists, and with its rank. -/
def regrouped (n : Network) (source : CredentialSource) (now : Moment)
    (heard listed : List Observation) : Network :=
  (n.listing now heard listed).updateRank (n.modifierFrom source)

/-- A scan changes the access points, the rank and the last moment of a network. -/
theorem regrouped_eq (n : Network) (source : CredentialSource) (now : Moment)
    (heard listed : List Observation) :
    n.regrouped source now heard listed =
      { n with
        accessPoints := (n.regrouped source now heard listed).accessPoints
        rank := (n.regrouped source now heard listed).rank
        lastSeen := if n.home ∈ heard.map Observation.home then now else n.lastSeen } := by
  rw [← n.lastSeen_listing now heard listed]
  rfl

/-- A network is ranked by an access point that none of its others outranks. -/
theorem exists_best {n : Network} (modifier : Option Float) (ne : n.accessPoints ≠ [])
    (descending : n.accessPoints.Pairwise fun p q => q.rank ≤ p.rank) :
    ∃ best ∈ n.accessPoints, (∀ p ∈ n.accessPoints, p.rank ≤ best.rank) ∧
      (n.updateRank modifier).rank = rankFor best.rank modifier := by
  obtain ⟨best, first, there, highest⟩ := exists_best?_eq_some ne descending
  exact ⟨best, there, highest, by simp [updateRank, bestRank, first]⟩

end Network

namespace Catalogue

/-- The catalogue after a scan, network by network: those that list nothing are left out. -/
def regrouped (c : Catalogue) (heard : List Observation) (pin : Option Pin)
    (source : CredentialSource) (now : Moment) : Catalogue :=
  let current := c.current pin now heard
  { c with
    observations := current
    networks := ((c.known now heard).filter fun n => n.gathered pin heard current ≠ []).map
      fun n => n.regrouped source now heard (n.gathered pin heard current) }

theorem mem_networks_regrouped {c : Catalogue} {heard : List Observation} {pin : Option Pin}
    {source : CredentialSource} {now : Moment} {n : Network} :
    n ∈ (c.regrouped heard pin source now).networks ↔
      ∃ old ∈ c.known now heard, old.gathered pin heard (c.current pin now heard) ≠ [] ∧
        old.regrouped source now heard (old.gathered pin heard (c.current pin now heard)) = n := by
  simp [regrouped, and_assoc]

section

variable {c : Catalogue} (named : c.Named) (now : Moment) (heard : List Observation)
  (pin : Option Pin)

include named

/-- Networks that are heard for the first time do not leave. -/
theorem filter_known_eq_nil :
    ((c.known now heard).filter fun n => n.gathered pin heard (c.current pin now heard) = []) =
      c.networks.filter fun n => n.gathered pin heard (c.current pin now heard) = [] := by
  rw [known, List.filter_append, List.append_right_eq_self, List.filter_eq_nil_iff]
  intro n hn
  obtain ⟨home, new, rfl⟩ := List.mem_map.1 hn
  rw [newHomes, List.mem_eraseDups, List.mem_filter] at new
  rw [decide_eq_true_eq]
  exact (gathered_ne_nil_iff named pin (List.mem_append_right _ hn)).2 (.inl new.1)

theorem settle_held (source : CredentialSource) :
    (c.held pin now heard).settle source =
      (c.regrouped heard pin source now,
        (c.networks.filter fun n => n.gathered pin heard (c.current pin now heard) = []).map
          fun n => .removed n.path .outOfRange) := by
  have empty : ∀ (n : Network) (listed : List Observation),
      (n.listing now heard listed).accessPoints.isEmpty = decide (listed = []) := by
    intro n listed
    rw [Network.listing, AccessPoint.isEmpty_byRank, List.isEmpty_map]
    cases listed <;> rfl
  have gone := filter_known_eq_nil named now heard pin
  simp only [settle, held, List.filter_map, Function.comp_def, empty, List.map_map,
    Network.path_listing, gone, ← decide_not]
  rfl

/-- The networks after a scan are those from before and those that were heard for the first time,
as far as something was heard of them or the access point in use is on them. -/
theorem homes_regrouped (source : CredentialSource) :
    (c.regrouped heard pin source now).networks.map Network.home =
      (c.networks.map Network.home ++ c.newHomes heard).filter fun home =>
        home ∈ heard.map Observation.home ∨ c.Keeps pin heard home := by
  rw [← homes_known c now heard, List.filter_map, regrouped, List.map_map]
  refine congrArg (List.map Network.home) (List.filter_congr fun n hn => ?_)
  exact decide_eq_decide.2 (gathered_ne_nil_iff named pin hn)

end

/-- Taking in a scan comes to grouping what was heard. -/
theorem ingest_eq {c : Catalogue} (named : c.Named) (observations : List Observation)
    (pin : Option Pin) (source : CredentialSource) (now : Moment) :
    let heard := heard observations
    c.ingest observations pin source now =
      { catalogue := c.regrouped heard pin source now
        changes := ((c.newHomes heard).map fun home =>
            .added (networkPath c.device home.1 home.2)) ++
          (c.networks.filter fun n => n.gathered pin heard (c.current pin now heard) = []).map
            fun n => .removed n.path .outOfRange
        report := {
          accepted := heard.length
          rejected := ((dedup observations).filter fun o => !o.isPlaceable).length
          pinned := (c.carried pin now heard).isSome } } := by
  intro heard
  have placed := foldl_place now named (dedup observations)
  have settled := settle_held named now heard pin source
  unfold ingest
  simp only [placed]
  cases pin with
  | none =>
    rw [held_none] at settled
    have parts : (c.placed now (placeable (dedup observations))).settle source = _ := settled
    rw [parts]
    rfl
  | some p =>
    have kept : keepPinned p c.observations (c.placed now (placeable (dedup observations))) =
        (c.held (some p) now heard, (c.carried (some p) now heard).isSome) :=
      keepPinned_placed named p
    simp only [kept, settled]
    rfl

/-! ### What a scan comes to -/

/-- What taking in a scan comes to, whatever the order of work. -/
structure Grouped (c : Catalogue) (observations : List Observation) (pin : Option Pin)
    (source : CredentialSource) (now : Moment) (i : Intake) : Prop where
  device_eq : i.catalogue.device = c.device
  /-- What was heard and has a place is current, in order, and after it the observation of the
  access point in use if that is carried over. -/
  observations_eq :
    i.catalogue.observations = heard observations ++ (c.carried pin now (heard observations)).toList
  /-- There is a network for each SSID and security type that was heard, and for that of the access
  point in use.  The networks from before come first, in their order, and the others follow in the
  order in which they were heard. -/
  homes_eq : i.catalogue.networks.map Network.home =
    (c.networks.map Network.home ++ c.newHomes (heard observations)).filter fun home =>
      home ∈ (heard observations).map Observation.home ∨ c.Keeps pin (heard observations) home
  homes_nodup : (i.catalogue.networks.map Network.home).Nodup
  /-- A network lists what was heard of it, and the access point in use if that goes back onto it,
  by descending rank and otherwise in this order. -/
  accessPoints_eq : ∀ n ∈ i.catalogue.networks, n.accessPoints =
    AccessPoint.byRank ((n.gathered pin (heard observations) i.catalogue.observations).map
      Observation.accessPoint)
  /-- A network has the rank that its best access point and the store give it. -/
  rank_eq : ∀ n ∈ i.catalogue.networks, ∃ best ∈ n.accessPoints,
    (∀ p ∈ n.accessPoints, p.rank ≤ best.rank) ∧
      n.rank = Network.rankFor best.rank (source.rankModifier n.ssid n.security)
  /-- Otherwise a network from before is as it was, except that it was seen now if it was heard. -/
  kept : ∀ n ∈ i.catalogue.networks, n.home ∈ c.networks.map Network.home →
    ∃ old ∈ c.networks, n = { old with
      accessPoints := n.accessPoints
      rank := n.rank
      lastSeen :=
        if n.home ∈ (heard observations).map Observation.home then now else old.lastSeen }
  /-- A network that is heard for the first time was first seen now, and has no secret. -/
  new : ∀ n ∈ i.catalogue.networks, n.home ∉ c.networks.map Network.home →
    n = { Network.new (networkPath c.device n.ssid n.security) n.ssid n.security now with
      accessPoints := n.accessPoints
      rank := n.rank }
  /-- Watchers are told of the networks that are new, and then of those that left. -/
  changes_eq : i.changes =
    ((c.newHomes (heard observations)).map fun home =>
      .added (networkPath c.device home.1 home.2)) ++
    (c.networks.filter fun n => n.home ∉ i.catalogue.networks.map Network.home).map fun n =>
      .removed n.path .outOfRange
  /-- Observations are counted as placed or not placed once for each address. -/
  report_eq : i.report = {
    accepted := (heard observations).length
    rejected := ((dedup observations).filter fun o => !o.isPlaceable).length
    pinned := (c.carried pin now (heard observations)).isSome }

/-- Networks of a settled catalogue have SSIDs and security types of their own. -/
theorem Settled.homes_nodup {c : Catalogue} (h : c.Settled) :
    (c.networks.map Network.home).Nodup := by
  refine List.Nodup.of_map (fun home => networkPath c.device home.1 home.2) ?_
  have names : (c.networks.map Network.home).map (fun home => networkPath c.device home.1 home.2) =
      c.networks.map (·.path) := by
    rw [List.map_map]
    exact List.map_congr_left fun n hn => (h.toFiled.named n hn).symm
  rw [names]
  exact h.paths

/-- In whatever way the catalogue of an interface has come about, taking in a scan comes to grouping
what was heard. -/
theorem ingest_groups {c : Catalogue} (h : c.Reachable) (observations : List Observation)
    (pin : Option Pin) (source : CredentialSource) (now : Moment) :
    Grouped c observations pin source now (c.ingest observations pin source now) := by
  have named := h.settled.toFiled.named
  have after := h.settled.ingest observations pin source now
  have nodup := after.homes_nodup
  have homes := homes_regrouped named now (heard observations) pin source
  rw [ingest_eq named] at after nodup ⊢
  refine ⟨rfl, rfl, homes, nodup, ?accessPoints, ?rank, ?kept, ?new, ?changes, rfl⟩
  case accessPoints =>
    intro n hn
    obtain ⟨old, _, _, rfl⟩ := mem_networks_regrouped.1 hn
    rfl
  case rank =>
    intro n hn
    have listed := after.heard n hn
    have sorted := (after.networks n hn).descending
    obtain ⟨old, _, _, rfl⟩ := mem_networks_regrouped.1 hn
    exact Network.exists_best (old.modifierFrom source) listed sorted
  case kept =>
    intro n hn before
    obtain ⟨old, hold, _, rfl⟩ := mem_networks_regrouped.1 hn
    rcases List.mem_append.1 hold with there | new
    · exact ⟨old, there, old.regrouped_eq ..⟩
    · have fresh : old.home ∉ c.networks.map Network.home := home_not_mem_of_newcomer new
      exact absurd before fresh
  case new =>
    intro n hn fresh
    obtain ⟨old, hold, _, rfl⟩ := mem_networks_regrouped.1 hn
    rcases List.mem_append.1 hold with there | new
    · exact absurd (List.mem_map_of_mem there) fresh
    · obtain ⟨home, _, rfl⟩ := List.mem_map.1 new
      -- Whether or not the scan took its last moment from before, it is now.
      refine ((c.newcomer now home).regrouped_eq ..).trans ?_
      rw [show (c.newcomer now home).lastSeen = now from rfl, ite_self]
      rfl
  case changes =>
    refine congrArg₂ (· ++ ·) rfl (congrArg (List.map _) (List.filter_congr fun n hn => ?_))
    have there : n.home ∈ c.networks.map Network.home := List.mem_map_of_mem hn
    have old : n ∈ c.known now (heard observations) := List.mem_append_left _ hn
    have lists := gathered_ne_nil_iff named pin old
    refine decide_eq_decide.2 (not_iff_not.1 ?_)
    rw [homes, List.mem_filter, decide_eq_true_eq, not_not]
    simpa [there] using lists

/-- An access point in use that is heard under another SSID is listed by both networks. -/
theorem ingest_groups_moved :
    let source := (Station.Sample.surroundings true).store
    let first := Station.Sample.observation
    let moved := { first with ssid := [0x42] }
    let pin : Pin := ⟨Station.Sample.network, Station.Sample.accessPoint⟩
    let c :=
      ({ device := "/net/connman/iwd/0/3" } : Catalogue).renew (.ingest [first] none source 0)
    let i := c.ingest [moved] (some pin) source 1
    c.Reachable ∧ Grouped c [moved] (some pin) source 1 i ∧
      i.catalogue.networks.map Network.home = [("A", .unsecured), ("B", .unsecured)] ∧
      i.catalogue.networks.map (·.accessPoints) = [[moved.accessPoint], [moved.accessPoint]] ∧
      i.catalogue.networks.map (·.lastSeen) = [0, 1] := by
  intro source first moved pin c i
  have reachable : c.Reachable := .renew (.new _) _
  exact ⟨reachable, ingest_groups reachable [moved] (some pin) source 1, by decide +kernel⟩

end Catalogue

end WirelessStation
