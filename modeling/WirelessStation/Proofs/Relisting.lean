import WirelessStation.Proofs.Grouping

/-! # Which networks come and go

A scan adds the names of the networks that are heard for the first time (`Catalogue.gained`) and
takes away those of the networks of which it leaves nothing (`Catalogue.lost`); all others stay, in
their order (`Catalogue.paths_regrouped`).  The network in use does not leave
(`Catalogue.not_mem_lost`). -/

namespace WirelessStation

namespace Catalogue

/-- The names of the networks that a scan hears for the first time. -/
def gained (c : Catalogue) (heard : List Observation) : List String :=
  (c.newHomes heard).map fun home => networkPath c.device home.1 home.2

/-- The names of the networks of which a scan leaves nothing. -/
def lost (c : Catalogue) (pin : Option Pin) (now : Moment) (heard : List Observation) :
    List String :=
  (c.networks.filter fun n => n.gathered pin heard (c.current pin now heard) = []).map (·.path)

section

variable {c : Catalogue} (h : c.Settled) (pin : Option Pin) (now : Moment)
  (heard : List Observation)

theorem lost_sublist (c : Catalogue) (pin : Option Pin) (now : Moment) (heard : List Observation) :
    (c.lost pin now heard).Sublist (c.networks.map (·.path)) :=
  List.filter_sublist.map _

theorem paths_known (c : Catalogue) (now : Moment) (heard : List Observation) :
    (c.known now heard).map (·.path) = c.networks.map (·.path) ++ c.gained heard := by
  rw [known, List.map_append, List.map_map]
  rfl

include h

theorem nodup_paths_known : ((c.known now heard).map (·.path)).Nodup := by
  have homes : ((c.known now heard).map Network.home).Nodup := by
    rw [homes_known, List.nodup_append']
    refine ⟨h.homes_nodup, nodup_eraseDups _, fun home old new => ?_⟩
    rw [newHomes, List.mem_eraseDups, List.mem_filter, decide_eq_true_eq] at new
    exact new.2 old
  have names : (c.known now heard).map (·.path) =
      ((c.known now heard).map Network.home).map fun home =>
        networkPath c.device home.1 home.2 := by
    rw [List.map_map]
    exact List.map_congr_left fun n hn => h.toFiled.named.known hn
  rw [names]
  refine homes.map fun home home' same => ?_
  rwa [networkPath_inj, ← Prod.ext_iff] at same

/-- A network that is known is lost exactly if it lists nothing after the scan. -/
theorem mem_lost_iff {n : Network} (hn : n ∈ c.known now heard) :
    n.path ∈ c.lost pin now heard ↔ n.gathered pin heard (c.current pin now heard) = [] := by
  rw [lost, ← filter_known_eq_nil h.toFiled.named]
  constructor
  · intro gone
    obtain ⟨m, hm, same⟩ := List.mem_map.1 gone
    rw [List.mem_filter, decide_eq_true_eq] at hm
    obtain rfl := List.inj_on_of_nodup_map (nodup_paths_known h now heard) hm.1 hn same
    exact hm.2
  · intro empty
    exact List.mem_map_of_mem (List.mem_filter.2 ⟨hn, by simpa using empty⟩)

theorem paths_regrouped (source : CredentialSource) :
    (c.regrouped heard pin source now).networks.map (·.path) =
      (c.networks.map (·.path) ++ c.gained heard).filter fun path =>
        path ∉ c.lost pin now heard := by
  rw [← paths_known c now heard, List.filter_map, regrouped, List.map_map]
  refine congrArg (List.map _) (List.filter_congr fun n hn => ?_)
  exact decide_eq_decide.2 (not_congr (mem_lost_iff h pin now heard hn).symm)

theorem changes_ingest (observations : List Observation) (source : CredentialSource) :
    (c.ingest observations pin source now).changes =
      (c.gained (Catalogue.heard observations)).map .added ++
        (c.lost pin now (Catalogue.heard observations)).map fun path =>
          .removed path .outOfRange := by
  rw [ingest_eq h.toFiled.named, gained, lost, List.map_map, List.map_map]
  rfl

theorem paths_ingest (observations : List Observation) (source : CredentialSource) :
    (c.ingest observations pin source now).catalogue.networks.map (·.path) =
      (c.networks.map (·.path) ++ c.gained (Catalogue.heard observations)).filter fun path =>
        path ∉ c.lost pin now (Catalogue.heard observations) := by
  rw [ingest_eq h.toFiled.named]
  exact paths_regrouped h pin now (Catalogue.heard observations) source

/-- The network in use does not leave while there is an observation of the access point in use. -/
theorem not_mem_lost {p : Pin} (placed : c.Places p.network p.address) :
    p.network ∉ c.lost (some p) now heard := by
  intro gone
  obtain ⟨n, hn, path⟩ := List.mem_map.1 ((c.lost_sublist (some p) now heard).subset gone)
  have old : n ∈ c.known now heard := List.mem_append_left _ hn
  have named := h.toFiled.named
  have keeps : c.Keeps (some p) heard n.home :=
    ⟨p, rfl, path ▸ named.known old, .inr placed.observed⟩
  have lists := (gathered_ne_nil_iff named (some p) old).2 (.inr keeps)
  exact lists ((mem_lost_iff h (some p) now heard old).1 (path ▸ gone))

end

end Catalogue

end WirelessStation
