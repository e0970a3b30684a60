import WirelessStation.Proofs.Grouping

/-! # Taking in a scan again

A scan that is taken in a second time, with the same access point in use, the same answers of the
store and at the same moment, finds everything where the first time has put it.

* `newHomes_regrouped`: whatever was heard has its network by now.
* `carried_regrouped`: what was carried over from before the scan is carried over again, since it is
  current now and its network has stayed for it.
* `regrouped_regrouped`: so every network is regrouped to what it is.
* `ingest_idempotent`: the catalogue stays as it is, nothing changes, and the report is the same. -/

namespace WirelessStation

namespace Network

variable (n : Network) (source : CredentialSource) (now : Moment) (heard : List Observation)

/-- What a network lists does not depend on what it listed before. -/
theorem gathered_regrouped (pin : Option Catalogue.Pin) (current listed : List Observation) :
    (n.regrouped source now heard listed).gathered pin heard current =
      n.gathered pin heard current := rfl

theorem regrouped_regrouped (listed : List Observation) :
    (n.regrouped source now heard listed).regrouped source now heard listed =
      n.regrouped source now heard listed := by
  have members : (n.regrouped source now heard listed).members heard = n.members heard := rfl
  unfold regrouped at members ⊢
  unfold listing at members ⊢
  rw [members]
  cases (n.members heard).isEmpty <;> rfl

end Network

namespace Catalogue

section

variable {c : Catalogue} (named : c.Named) (heard : List Observation) (pin : Option Pin)
  (source : CredentialSource) (now : Moment)

include named

theorem newHomes_regrouped : (c.regrouped heard pin source now).newHomes heard = [] := by
  have all : ∀ home ∈ heard.map Observation.home,
      home ∈ (c.regrouped heard pin source now).networks.map Network.home := by
    intro home there
    have known : home ∈ (c.known now heard).map Network.home := home_mem_known.2 (.inr there)
    rw [homes_known] at known
    rw [homes_regrouped named, List.mem_filter, decide_eq_true_eq]
    exact ⟨known, .inl there⟩
  have none : (heard.map Observation.home).filter (fun home =>
      home ∉ (c.regrouped heard pin source now).networks.map Network.home) = [] := by
    rw [List.filter_eq_nil_iff]
    intro home there
    simpa using all home there
  rw [newHomes, none, List.eraseDups_nil]

theorem known_regrouped :
    (c.regrouped heard pin source now).known now heard =
      (c.regrouped heard pin source now).networks := by
  rw [known, newHomes_regrouped named, List.map_nil, List.append_nil]

/-- The network of the access point in use stays if there is an observation to carry over. -/
theorem mem_paths_of_carried {p : Pin} {o : Observation}
    (carries : c.carried (some p) now heard = some o) :
    p.network ∈ (c.regrouped heard (some p) source now).networks.map (·.path) := by
  obtain ⟨known, _, before⟩ := carried_eq_some_iff.1 carries
  obtain ⟨n, hn, path⟩ := List.mem_map.1 known
  have keeps : c.Keeps (some p) heard n.home := by
    refine ⟨p, rfl, ?_, .inr (Option.isSome_of_eq_some before)⟩
    rw [← path]
    exact named.known hn
  have lists := (gathered_ne_nil_iff named (some p) hn).2 (.inr keeps)
  exact List.mem_map.2 ⟨_, mem_networks_regrouped.2 ⟨n, hn, lists, rfl⟩, path⟩

theorem carried_regrouped :
    (c.regrouped heard pin source now).carried pin now heard = c.carried pin now heard := by
  cases pin with
  | none => rfl
  | some p =>
    by_cases there : p.address ∈ heard.map (·.address)
    · rw [carried, if_neg fun h => h.2 there, carried, if_neg fun h => h.2 there]
    · have missing : heard.find? (fun o => o.address == p.address) = none := by simpa using there
      cases carries : c.carried (some p) now heard with
      | none =>
        have gone : (c.regrouped heard (some p) source now).observation? p.address = none := by
          simp [observation?, regrouped, current, carries, missing]
        rw [carried, gone, ite_self]
      | some o =>
        have address : o.address = p.address :=
          address_of_observation? (carried_eq_some_iff.1 carries).2.2
        have again : (c.regrouped heard (some p) source now).observation? p.address = some o := by
          simp [observation?, regrouped, current, carries, missing, address]
        have stays := mem_paths_of_carried named heard source now carries
        rw [carried_eq_some_iff, known_regrouped named]
        exact ⟨stays, there, again⟩

theorem current_regrouped :
    (c.regrouped heard pin source now).current pin now heard = c.current pin now heard := by
  rw [current, carried_regrouped named, ← current]

omit named in
/-- A network that is left has something to list again, and comes out as it is. -/
theorem regrouped_of_mem_regrouped {n : Network}
    (hn : n ∈ (c.regrouped heard pin source now).networks) :
    n.gathered pin heard (c.current pin now heard) ≠ [] ∧
      n.regrouped source now heard (n.gathered pin heard (c.current pin now heard)) = n := by
  obtain ⟨old, _, lists, rfl⟩ := mem_networks_regrouped.1 hn
  rw [Network.gathered_regrouped]
  exact ⟨lists, old.regrouped_regrouped source now heard _⟩

theorem regrouped_regrouped :
    (c.regrouped heard pin source now).regrouped heard pin source now =
      c.regrouped heard pin source now := by
  have same : ∀ n ∈ (c.regrouped heard pin source now).networks,
      n.gathered pin heard (c.current pin now heard) ≠ [] ∧
        n.regrouped source now heard (n.gathered pin heard (c.current pin now heard)) = n :=
    fun _ hn => regrouped_of_mem_regrouped heard pin source now hn
  refine Catalogue.ext rfl (current_regrouped named heard pin source now) ?_
  show (((c.regrouped heard pin source now).known now heard).filter _).map _ = _
  rw [current_regrouped named, known_regrouped named, List.filter_eq_self.2, List.map_congr_left,
    List.map_id']
  · intro n hn
    exact (same n hn).2
  · intro n hn
    exact decide_eq_true (same n hn).1

theorem Named.regrouped : (c.regrouped heard pin source now).Named := by
  intro n hn
  obtain ⟨old, hold, _, rfl⟩ := mem_networks_regrouped.1 hn
  have path : old.path = networkPath c.device old.ssid old.security := named.known hold
  exact path

end

/-- A catalogue that a scan has regrouped takes the same scan in without a change. -/
theorem ingest_regrouped {c : Catalogue} (named : c.Named) (observations : List Observation)
    (pin : Option Pin) (source : CredentialSource) (now : Moment) :
    let regrouped := c.regrouped (heard observations) pin source now
    regrouped.ingest observations pin source now =
      { catalogue := regrouped
        report := (c.ingest observations pin source now).report } := by
  intro regrouped
  have nobody_leaves : regrouped.networks.filter (fun n =>
      n.gathered pin (heard observations)
        (c.current pin now (heard observations)) = []) = [] := by
    rw [List.filter_eq_nil_iff]
    intro n hn
    simpa using (regrouped_of_mem_regrouped (heard observations) pin source now hn).1
  rw [ingest_eq (named.regrouped _ _ _ _), ingest_eq named, regrouped_regrouped named,
    newHomes_regrouped named, current_regrouped named, carried_regrouped named, nobody_leaves]
  rfl

/-- In whatever way the catalogue of an interface has come about, taking in a scan a second time,
with the same access point in use, the same answers of the store and at the same moment, leaves the
catalogue as the first time has left it, tells of no change and reports the same. -/
theorem ingest_idempotent {c : Catalogue} (h : c.Reachable) (observations : List Observation)
    (pin : Option Pin) (source : CredentialSource) (now : Moment) :
    let first := c.ingest observations pin source now
    let second := first.catalogue.ingest observations pin source now
    second.catalogue = first.catalogue ∧ second.changes = [] ∧ second.report = first.report := by
  intro first second
  have named : c.Named := h.settled.toFiled.named
  have once : first.catalogue = c.regrouped (heard observations) pin source now := by
    simp only [first, ingest_eq named]
  have twice : second = { catalogue := first.catalogue, report := first.report } := by
    simp only [second, once, ingest_regrouped named, first]
  rw [twice]
  exact ⟨rfl, rfl, rfl⟩

/-- An access point in use that a scan misses is carried over again, and one that is heard under
another SSID goes back onto its network again. -/
theorem ingest_idempotent_in_use :
    let source := (Station.Sample.surroundings true).store
    let heard := Station.Sample.observation
    let moved := { heard with ssid := [0x42] }
    let pin : Pin := ⟨Station.Sample.network, Station.Sample.accessPoint⟩
    let c :=
      ({ device := "/net/connman/iwd/0/3" } : Catalogue).renew (.ingest [heard] none source 0)
    let missed := c.ingest [] (some pin) source 1
    let elsewhere := c.ingest [moved] (some pin) source 1
    missed.report.pinned = true ∧
      (missed.catalogue.ingest [] (some pin) source 1).catalogue = missed.catalogue ∧
      (missed.catalogue.ingest [] (some pin) source 1).report = missed.report ∧
      elsewhere.changes ≠ [] ∧
      (elsewhere.catalogue.ingest [moved] (some pin) source 1).changes = [] := by
  intro source heard moved pin c missed elsewhere
  have reachable : c.Reachable := .renew (.new _) _
  obtain ⟨catalogue, _, report⟩ := ingest_idempotent reachable [] (some pin) source 1
  obtain ⟨_, changes, _⟩ := ingest_idempotent reachable [moved] (some pin) source 1
  have carried : missed.report.pinned = true := by decide +kernel
  have new : elsewhere.changes ≠ [] := by decide +kernel
  exact ⟨carried, catalogue, report, new, changes⟩

end Catalogue

end WirelessStation
