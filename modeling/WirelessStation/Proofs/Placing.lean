import Mathlib.Data.List.Induction
import WirelessStation.Proofs.Names
import WirelessStation.Proofs.Rekeying

/-! # Where the observations of a scan go

Placing observations one after the other, each in the list of its network and each of these lists
sorted by insertion, comes to grouping them by SSID and security type.

* `AccessPoint.insertRanked_byRank`: insertion one after the other is a stable sort.
* `Catalogue.placement?_eq`: which observations have a place, and where (`Observation.home`).
* `Catalogue.known`: the networks from before, and then those that are heard for the first time.
* `Catalogue.foldl_place`: what there is once every observation is placed. -/

namespace WirelessStation

/-! ### Access points, one after the other -/

namespace AccessPoint

/-- By descending rank, equal ranks in their order. -/
def byRank (l : List AccessPoint) : List AccessPoint :=
  l.mergeSort fun p q => q.rank ≤ p.rank

/-- An access point goes behind those of its rank. -/
theorem filter_insertRanked (a : AccessPoint) {l : List AccessPoint}
    (sorted : l.Pairwise fun p q => q.rank ≤ p.rank) (rank : UInt16) :
    ((a.insertRanked l).filter fun p => p.rank = rank) =
      (l ++ [a]).filter fun p => p.rank = rank := by
  induction l with
  | nil => rfl
  | cons b rest ih =>
    obtain ⟨first, others⟩ := List.pairwise_cons.1 sorted
    unfold insertRanked
    split
    next lower =>
      by_cases own : a.rank = rank
      · have none : ((b :: rest).filter fun p => p.rank = rank) = [] := by
          rw [List.filter_eq_nil_iff]
          intro p hp
          have below : p.rank ≤ b.rank := by
            rcases List.mem_cons.1 hp with rfl | hp
            · exact UInt16.le_refl _
            · exact first p hp
          have : p.rank < rank := own ▸ UInt16.lt_of_le_of_lt below lower
          simpa using UInt16.ne_of_lt this
        rw [List.filter_cons_of_pos (by simpa using own), List.filter_append, none]
        simp [own]
      · rw [List.filter_cons_of_neg (by simpa using own), List.filter_append]
        simp [own]
    next =>
      rw [List.cons_append, List.filter_cons, ih others, List.filter_cons]

/-- Inserting access points one after the other sorts them. -/
theorem insertRanked_byRank (a : AccessPoint) (l : List AccessPoint) :
    a.insertRanked (byRank l) = byRank (l ++ [a]) := by
  have sorted := pairwise_mergeSort_key AccessPoint.rank l
  refine eq_mergeSort_key (a.pairwise_insertRanked sorted) fun rank => ?_
  have kept := filter_mergeSort_key AccessPoint.rank l rank
  rw [byRank, a.filter_insertRanked sorted, List.filter_append, List.filter_append, kept]

@[simp] theorem byRank_nil : byRank [] = [] :=
  List.mergeSort_nil

theorem byRank_perm (l : List AccessPoint) : (byRank l).Perm l :=
  List.mergeSort_perm l _

theorem isEmpty_byRank (l : List AccessPoint) : (byRank l).isEmpty = l.isEmpty :=
  (byRank_perm l).isEmpty_eq

end AccessPoint

/-! ### Where observations belong -/

/-- Whether an element has been decoded. -/
def SecurityElement.isReadable (e : SecurityElement) : Bool :=
  match e.reading with
  | .suites _ => true
  | .malformed _ => false

namespace Observation

/-- Whether an observation has a place in a catalogue: its SSID is text of at most 32 octets, and
its governing element, if it has one, is readable. -/
def isPlaceable (o : Observation) : Bool :=
  o.ssid.length ≤ 32 && (Utf8.decode? o.ssid).isSome && o.governing.all SecurityElement.isReadable

/-- The security type of an observation, and the observation with its SHA-256 mark, if its governing
element is readable. -/
def classified (o : Observation) : Security × Observation :=
  o.classify.toOption.getD (.unsecured, o)

/-- An observation with its SHA-256 mark. -/
def marked (o : Observation) : Observation :=
  o.classified.2

/-- The SSID and the security type of the network that an observation belongs to. -/
def home (o : Observation) : String × Security :=
  (ssidText o.ssid, o.classified.1)

theorem isOk_governingSuites (o : Observation) :
    o.governingSuites.toOption.isSome = o.governing.all SecurityElement.isReadable := by
  unfold governingSuites SecurityElement.isReadable
  cases o.governing with
  | none => rfl
  | some e => cases h : e.reading <;> simp [h, Except.toOption]

theorem home_marked (o : Observation) : o.marked.home = o.home := by
  unfold home marked classified classify
  cases suites : o.governingSuites with
  | error e => simp [suites, Except.toOption]
  | ok s =>
    let mark := offersSha256 (o.securityOf s) s
    have again : { o with sha256 := mark }.governingSuites = .ok s := suites
    simp only [Except.toOption, Option.getD_some, again, mark]
    rfl

end Observation

open Observation in
theorem Catalogue.placement?_eq (o : Observation) :
    placement? o =
      if o.isPlaceable then some (o.home.1, o.home.2, o.marked) else none := by
  have readable := o.isOk_governingSuites
  unfold placement? isPlaceable hasReadableSsid ssidLimit home marked classified classify
  cases suites : o.governingSuites with
  | error e =>
    rw [suites] at readable
    simp [← readable, Except.toOption]
  | ok s =>
    rw [suites] at readable
    simp [← readable, Except.toOption]

/-! ### Groups -/

namespace Network

/-- The SSID and the security type of a network. -/
def home (n : Network) : String × Security :=
  (n.ssid, n.security)

/-- What was heard of a network. -/
def members (n : Network) (heard : List Observation) : List Observation :=
  heard.filter fun o => o.home = n.home

/-- A network with the access points that it lists after a scan, which it was seen in if anything
was heard of it. -/
def listing (n : Network) (now : Moment) (heard listed : List Observation) : Network :=
  { n with
    accessPoints := AccessPoint.byRank (listed.map Observation.accessPoint)
    lastSeen := if (n.members heard).isEmpty then n.lastSeen else now }

@[simp] theorem path_listing (n : Network) (now : Moment) (heard listed : List Observation) :
    (n.listing now heard listed).path = n.path := rfl

end Network

attribute [ext] Catalogue

namespace Catalogue

/-- What was heard in a scan and has a place: one observation for each address, with its mark. -/
def heard (observations : List Observation) : List Observation :=
  ((dedup observations).filter Observation.isPlaceable).map Observation.marked

/-- What is heard for the first time, in the order in which it is. -/
def newHomes (c : Catalogue) (heard : List Observation) : List (String × Security) :=
  ((heard.map Observation.home).filter fun home => home ∉ c.networks.map Network.home).eraseDups

/-- A network of the interface that is heard for the first time. -/
def newcomer (c : Catalogue) (now : Moment) (home : String × Security) : Network :=
  .new (networkPath c.device home.1 home.2) home.1 home.2 now

@[simp] theorem home_newcomer (c : Catalogue) (now : Moment) (home : String × Security) :
    (c.newcomer now home).home = home := rfl

/-- The networks from before, and then those that are heard for the first time. -/
def known (c : Catalogue) (now : Moment) (heard : List Observation) : List Network :=
  c.networks ++ (c.newHomes heard).map (c.newcomer now)

theorem home_not_mem_of_newcomer {c : Catalogue} {now : Moment} {heard : List Observation}
    {n : Network} (h : n ∈ (c.newHomes heard).map (c.newcomer now)) :
    n.home ∉ c.networks.map Network.home := by
  obtain ⟨home, new, rfl⟩ := List.mem_map.1 h
  rw [newHomes, List.mem_eraseDups, List.mem_filter] at new
  simpa using new.2

/-- The catalogue once the observations of a scan are with their networks. -/
def placed (c : Catalogue) (now : Moment) (heard : List Observation) : Catalogue :=
  { c with
    observations := heard
    networks := (c.known now heard).map fun n => n.listing now heard (n.members heard) }

/-- Every network has the name that its SSID and its security type give it. -/
def Named (c : Catalogue) : Prop :=
  ∀ n ∈ c.networks, n.path = networkPath c.device n.ssid n.security

variable {c : Catalogue} {now : Moment} {heard : List Observation}

theorem Filed.named (h : c.Filed) : c.Named :=
  fun n hn => (h.networks n hn).path_eq

theorem Named.known (h : c.Named) {n : Network} (hn : n ∈ c.known now heard) :
    n.path = networkPath c.device n.ssid n.security := by
  rcases List.mem_append.1 hn with old | new
  · exact h n old
  · obtain ⟨home, _, rfl⟩ := List.mem_map.1 new
    rfl

/-- A network that is known has the name of a home exactly if that is its home. -/
theorem Named.path_eq_iff (h : c.Named) {n : Network} (hn : n ∈ c.known now heard)
    (home : String × Security) :
    n.path = networkPath c.device home.1 home.2 ↔ home = n.home := by
  rw [h.known hn, networkPath_inj, Network.home, Prod.ext_iff]
  exact and_congr eq_comm eq_comm

variable (c now heard) in
theorem homes_known :
    (c.known now heard).map Network.home = c.networks.map Network.home ++ c.newHomes heard := by
  have same : Network.home ∘ c.newcomer now = id := rfl
  rw [known, List.map_append, List.map_map, same, List.map_id]

theorem home_mem_known {home : String × Security} :
    home ∈ (c.known now heard).map Network.home ↔
      home ∈ c.networks.map Network.home ∨ home ∈ heard.map Observation.home := by
  rw [homes_known, List.mem_append, newHomes, List.mem_eraseDups, List.mem_filter]
  by_cases old : home ∈ c.networks.map Network.home <;> simp [old]

theorem eraseDups_concat {α : Type} [BEq α] [LawfulBEq α] (l : List α) (a : α) :
    (l ++ [a]).eraseDups = l.eraseDups ++ if a ∈ l then [] else [a] := by
  rw [List.eraseDups_append, List.removeAll]
  by_cases there : a ∈ l <;> simp [there, List.eraseDups_cons]

theorem nodup_eraseDups {α : Type} [BEq α] [LawfulBEq α] (l : List α) : l.eraseDups.Nodup := by
  induction l using List.reverseRecOn with
  | nil => exact .nil
  | append_singleton l a ih =>
    rw [eraseDups_concat]
    split
    next => rwa [List.append_nil]
    next fresh =>
      rw [← List.concat_eq_append]
      exact ih.concat (mt List.mem_eraseDups.1 fresh)

variable (c now heard) in
/-- Another observation adds its home if that is not known. -/
theorem newHomes_concat (o : Observation) :
    c.newHomes (heard ++ [o]) =
      c.newHomes heard ++
        if o.home ∈ (c.known now heard).map Network.home then [] else [o.home] := by
  simp only [home_mem_known]
  rw [newHomes, List.map_append, List.filter_append, List.map_singleton]
  by_cases old : o.home ∈ c.networks.map Network.home
  · rw [List.filter_cons_of_neg (by simpa using old), List.filter_nil, List.append_nil]
    simp [old, newHomes]
  · rw [List.filter_cons_of_pos (by simpa using old), List.filter_nil, eraseDups_concat,
      ← newHomes]
    simp only [List.mem_filter, old, not_false_eq_true, decide_true, and_true, false_or]

theorem known_concat (o : Observation) :
    c.known now (heard ++ [o]) =
      c.known now heard ++
        if o.home ∈ (c.known now heard).map Network.home then [] else [c.newcomer now o.home] := by
  rw [known, newHomes_concat c now, List.map_append, ← List.append_assoc, ← known]
  split <;> rfl

/-! ### Placing observations -/

/-- With another observation of it a network lists one more access point. -/
theorem listing_concat_of_home {n : Network} {o : Observation} (here : o.home = n.home) :
    attachSeen now o (n.listing now heard (n.members heard)) =
      n.listing now (heard ++ [o]) (n.members (heard ++ [o])) := by
  have more : n.members (heard ++ [o]) = n.members heard ++ [o] := by
    simp [Network.members, here]
  have sorted := o.accessPoint.insertRanked_byRank ((n.members heard).map Observation.accessPoint)
  have seen : (AccessPoint.byRank ((n.members heard).map Observation.accessPoint)).isEmpty =
      (n.members heard).isEmpty := by
    rw [AccessPoint.isEmpty_byRank, List.isEmpty_map]
  simp only [attachSeen, Network.listing, Network.attach, Network.seen, seen, more]
  cases (n.members heard).isEmpty <;> simp [sorted]

/-- An observation of another network changes nothing. -/
theorem listing_concat_of_other {n : Network} {o : Observation} (other : o.home ≠ n.home) :
    n.listing now (heard ++ [o]) (n.members (heard ++ [o])) =
      n.listing now heard (n.members heard) := by
  have same : n.members (heard ++ [o]) = n.members heard := by simp [Network.members, other]
  rw [Network.listing, same, ← Network.listing]

/-- A network of which nothing was heard yet lists nothing. -/
theorem listing_newcomer {home : String × Security} (fresh : home ∉ heard.map Observation.home) :
    (c.newcomer now home).listing now heard ((c.newcomer now home).members heard) =
      c.newcomer now home := by
  have none : (c.newcomer now home).members heard = [] := by
    rw [Network.members, List.filter_eq_nil_iff]
    intro o ho
    have other : o.home ≠ home := fun h => fresh (h ▸ List.mem_map_of_mem ho)
    rwa [home_newcomer, decide_eq_true_eq]
  simp only [Network.listing, none, List.map_nil, AccessPoint.byRank_nil, List.isEmpty_nil, if_true]
  rfl

variable (now heard) in
theorem hasNetwork_placed (named : c.Named) (home : String × Security) :
    (c.placed now heard).hasNetwork (networkPath c.device home.1 home.2) = true ↔
      home ∈ (c.known now heard).map Network.home := by
  simp only [hasNetwork, placed, List.any_map, List.any_eq_true, Function.comp_apply, beq_iff_eq,
    Network.listing, List.mem_map]
  constructor
  · rintro ⟨n, hn, named'⟩
    exact ⟨n, hn, ((named.path_eq_iff hn home).1 named').symm⟩
  · rintro ⟨n, hn, rfl⟩
    exact ⟨n, hn, (named.path_eq_iff hn n.home).2 rfl⟩

variable (now heard) in
theorem changes_ensure_placed (named : c.Named) (home : String × Security) :
    ((c.placed now heard).ensure (networkPath c.device home.1 home.2) home.1 home.2 now).2 =
      (if home ∈ (c.known now heard).map Network.home then [] else [home]).map fun home =>
        .added (networkPath c.device home.1 home.2) := by
  have there := hasNetwork_placed now heard named home
  unfold ensure
  by_cases known : home ∈ (c.known now heard).map Network.home
  · rw [if_pos (there.2 known), if_pos known]
    rfl
  · rw [if_neg (mt there.1 known), if_neg known]
    rfl

variable (now heard) in
/-- Receiving an observation adds it to what was heard. -/
theorem receive_placed (named : c.Named) (o : Observation) :
    (c.placed now heard).receive o.home.1 o.home.2 now o = c.placed now (heard ++ [o]) := by
  let path := networkPath c.device o.home.1 o.home.2
  have ensured : ((c.placed now heard).ensure path o.home.1 o.home.2 now).1.networks =
      (c.known now (heard ++ [o])).map fun n => n.listing now heard (n.members heard) := by
    rw [known_concat, List.map_append]
    by_cases there : o.home ∈ (c.known now heard).map Network.home
    · rw [ensure, if_pos ((hasNetwork_placed now heard named o.home).2 there), if_pos there]
      simp [placed]
    · have fresh : o.home ∉ heard.map Observation.home := by
        rw [home_mem_known, not_or] at there
        exact there.2
      rw [ensure, if_neg (mt (hasNetwork_placed now heard named o.home).1 there), if_neg there,
        List.map_singleton, listing_newcomer fresh]
      rfl
  have changed : ∀ n ∈ c.known now (heard ++ [o]),
      (if (n.listing now heard (n.members heard)).path = path then
        attachSeen now o (n.listing now heard (n.members heard))
      else n.listing now heard (n.members heard)) =
        n.listing now (heard ++ [o]) (n.members (heard ++ [o])) := by
    intro n hn
    have here : n.path = path ↔ o.home = n.home := named.path_eq_iff hn o.home
    rw [Network.path_listing]
    by_cases home : o.home = n.home
    · rw [if_pos (here.2 home), listing_concat_of_home home]
    · rw [if_neg (mt here.1 home), listing_concat_of_other home]
  have networks : ((c.placed now heard).receive o.home.1 o.home.2 now o).networks =
      (c.placed now (heard ++ [o])).networks := by
    show (((c.placed now heard).ensure path o.home.1 o.home.2 now).1.networks).map _ = _
    rw [ensured, List.map_map]
    exact List.map_congr_left changed
  exact Catalogue.ext (device_receive ..) (observations_receive ..) networks

/-- What is placed out of some observations. -/
def placeable (l : List Observation) : List Observation :=
  (l.filter Observation.isPlaceable).map Observation.marked

theorem place_of_isPlaceable {i : Intake} {o : Observation} (h : o.isPlaceable = true) :
    place now i o =
      { catalogue := i.catalogue.receive o.home.1 o.home.2 now o.marked
        changes := i.changes ++ (i.catalogue.ensure
          (networkPath i.catalogue.device o.home.1 o.home.2) o.home.1 o.home.2 now).2
        report := { i.report with accepted := i.report.accepted + 1 } } := by
  simp only [place, placement?_eq, h, if_true]
  rfl

theorem placed_nil (c : Catalogue) (now : Moment) :
    c.placed now [] =
      { c with observations := [], networks := c.networks.map Network.clearAccessPoints } := by
  have same : c.known now [] = c.networks := by simp [known, newHomes]
  simp [placed, same, Network.listing, Network.members, Network.clearAccessPoints]

variable (now) in
/-- Observations are placed one after the other: each goes to its network, and every network that
was not known is announced. -/
theorem foldl_place (named : c.Named) (l : List Observation) :
    l.foldl (place now)
        { catalogue :=
          { c with observations := [], networks := c.networks.map Network.clearAccessPoints } } =
      { catalogue := c.placed now (placeable l)
        changes := (c.newHomes (placeable l)).map fun home =>
          .added (networkPath c.device home.1 home.2)
        report := {
          accepted := (placeable l).length
          rejected := (l.filter fun o => !o.isPlaceable).length } } := by
  induction l using List.reverseRecOn with
  | nil =>
    rw [← placed_nil c now]
    rfl
  | append_singleton l o ih =>
    rw [List.foldl_concat, ih]
    cases fits : o.isPlaceable with
    | true =>
      have more : placeable (l ++ [o]) = placeable l ++ [o.marked] := by simp [placeable, fits]
      have received := receive_placed now (placeable l) named o.marked
      have announced := changes_ensure_placed now (placeable l) named o.home
      rw [o.home_marked] at received
      rw [place_of_isPlaceable fits, more, newHomes_concat c now, o.home_marked]
      simp only [received, List.map_append, ← announced]
      simp [placed, fits]
    | false =>
      have same : placeable (l ++ [o]) = placeable l := by simp [placeable, fits]
      rw [same]
      simp [place, placement?_eq, fits]

end Catalogue

end WirelessStation
