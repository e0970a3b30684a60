import Mathlib.Data.List.Nodup
import WirelessStation.Proofs.Pinned

/-! # A scan is taken in one observation after the other

What comes of a scan is proved for each observation that is placed and for the access point in use,
and from that for the scan as a whole.

* `nodup_dedup`: no address is placed twice.
* `catalogue_place`: an observation that can be placed is *received*: it becomes current and is
  attached to its network, which is made if it is new.  Any other one changes nothing.
* `keepPinned_cases`: the access point in use is left where it is, attached or carried over.
* `ingest_induct`: what the emptied catalogue has, and receiving an observation with a new address
  and putting the access point in use back both keep, the catalogue has until it is settled. -/

namespace WirelessStation.Catalogue

/-! ### Observations of one address -/

theorem addresses_dedupInto (o : Observation) (kept : List Observation) :
    (dedupInto o kept).map (·.address) =
      if o.address ∈ kept.map (·.address) then kept.map (·.address)
      else kept.map (·.address) ++ [o.address] := by
  induction kept with
  | nil => rfl
  | cons p rest ih =>
    unfold dedupInto
    by_cases same : p.address = o.address
    · have chosen : (if p.rank < o.rank then o else p).address = p.address := by
        split
        · exact same.symm
        · rfl
      simp [same, chosen]
    · have other : ¬o.address = p.address := fun h => same h.symm
      rw [if_neg same, List.map_cons, ih, List.map_cons]
      by_cases later : o.address ∈ rest.map (·.address)
      · rw [if_pos later, if_pos (List.mem_cons_of_mem _ later)]
      · rw [if_neg later, if_neg (by simp [other, later]), List.cons_append]

theorem nodup_dedupInto {kept : List Observation} (o : Observation)
    (h : (kept.map (·.address)).Nodup) : ((dedupInto o kept).map (·.address)).Nodup := by
  rw [addresses_dedupInto]
  split
  next => exact h
  next new =>
    refine h.append (List.nodup_singleton _) ?_
    simpa using new

/-- A scan is taken in with one observation for each address. -/
theorem nodup_dedup (l : List Observation) : ((dedup l).map (·.address)).Nodup := by
  have kept : ∀ l acc : List Observation, (acc.map (·.address)).Nodup →
      ((l.foldl (fun kept o => dedupInto o kept) acc).map (·.address)).Nodup := by
    intro l
    induction l with
    | nil => exact fun _ h => h
    | cons o rest ih => exact fun acc h => ih _ (nodup_dedupInto o h)
  exact kept l [] List.nodup_nil

/-! ### Single observations -/

/-- Where an observation goes is read off everything but its SHA-256 mark, and the mark is all that
reading it changes. -/
theorem placement?_marked {o marked : Observation} {ssid : String} {security : Security}
    (h : placement? o = some (ssid, security, marked)) :
    marked.accessPoint = o.accessPoint ∧ placement? marked = some (ssid, security, marked) := by
  unfold placement? at h
  split at h
  next readable =>
    unfold Observation.classify at h
    cases suites : o.governingSuites with
    | error e => simp [suites] at h
    | ok s =>
      simp only [suites, Option.some.injEq, Prod.mk.injEq] at h
      obtain ⟨rfl, rfl, rfl⟩ := h
      refine ⟨rfl, ?_⟩
      let mark := Observation.offersSha256 (o.securityOf s) s
      have again : { o with sha256 := mark }.governingSuites = .ok s := suites
      simp only [placement?, Observation.classify, again, readable, if_true, mark]
      rfl
  next => cases h

section receive

variable (path ssid : String) (security : Security) (now : Moment) (o : Observation)
variable (c : Catalogue)

@[simp] theorem device_ensure : (c.ensure path ssid security now).1.device = c.device := by
  unfold ensure
  split <;> rfl

@[simp] theorem observations_ensure :
    (c.ensure path ssid security now).1.observations = c.observations := by
  unfold ensure
  split <;> rfl

/-- The catalogue once an observation has been placed with an SSID and a security type. -/
def receive : Catalogue :=
  let path := networkPath c.device ssid security
  let c := (c.ensure path ssid security now).1
  { c with observations := c.observations ++ [o] }.modify path (attachSeen now o)

@[simp] theorem device_receive : (c.receive ssid security now o).device = c.device := by
  simp [receive, modify]

@[simp] theorem observations_receive :
    (c.receive ssid security now o).observations = c.observations ++ [o] := by
  simp [receive, modify]

end receive

theorem catalogue_place (now : Moment) (i : Intake) (o : Observation) :
    (place now i o).catalogue =
      match placement? o with
      | none => i.catalogue
      | some (ssid, security, marked) => i.catalogue.receive ssid security now marked := by
  unfold place
  cases placement? o with
  | none => rfl
  | some _ => rfl

/-- The access point in use is left where it is if its network lists it already.  Otherwise it is
attached, if it was heard under another network, or carried over from before the scan. -/
theorem keepPinned_cases (pin : Pin) (previous : List Observation) (c : Catalogue) :
    (keepPinned pin previous c).1 = c ∨
      (∃ n o, c.network? pin.network = some n ∧ n.hasAccessPoint pin.address = false ∧
        c.observation? pin.address = some o ∧
        (keepPinned pin previous c).1 = c.modify pin.network (Network.attach o)) ∨
      ∃ o, c.observation? pin.address = none ∧
        (previous.find? fun o => o.address == pin.address) = some o ∧
        (c.network? pin.network).isSome = true ∧
        (keepPinned pin previous c).1 =
          { c with observations := c.observations ++ [o] }.modify pin.network
            (Network.attach o) := by
  unfold keepPinned
  cases found : c.network? pin.network with
  | none => exact .inl rfl
  | some n =>
    cases current : c.observation? pin.address with
    | some o =>
      cases has : n.hasAccessPoint pin.address with
      | true => exact .inl (by simp [has])
      | false => exact .inr (.inl ⟨n, o, rfl, has, rfl, by simp [has]⟩)
    | none =>
      cases carried : previous.find? fun o => o.address == pin.address with
      | none => exact .inl rfl
      | some o => exact .inr (.inr ⟨o, rfl, rfl, rfl, rfl⟩)

/-! ### Scans -/

theorem mem_of_mem_dedupInto {o p : Observation} {kept : List Observation}
    (h : p ∈ dedupInto o kept) : p = o ∨ p ∈ kept := by
  induction kept with
  | nil => exact .inl (List.mem_singleton.1 h)
  | cons q rest ih =>
    unfold dedupInto at h
    split at h
    · split at h <;> rcases List.mem_cons.1 h with rfl | h
      · exact .inl rfl
      · exact .inr (List.mem_cons_of_mem _ h)
      · exact .inr (List.mem_cons_self ..)
      · exact .inr (List.mem_cons_of_mem _ h)
    · rcases List.mem_cons.1 h with rfl | h
      · exact .inr (List.mem_cons_self ..)
      · exact (ih h).imp_right (List.mem_cons_of_mem _)

/-- Only what was heard is placed. -/
theorem mem_of_mem_dedup {p : Observation} {l : List Observation} (h : p ∈ dedup l) : p ∈ l := by
  have kept : ∀ l acc : List Observation, p ∈ l.foldl (fun kept o => dedupInto o kept) acc →
      p ∈ l ∨ p ∈ acc := by
    intro l
    induction l with
    | nil => exact fun _ h => .inr h
    | cons o rest ih =>
      intro acc h
      rcases ih _ h with later | first
      · exact .inl (List.mem_cons_of_mem _ later)
      · rcases mem_of_mem_dedupInto first with rfl | old
        · exact .inl (List.mem_cons_self ..)
        · exact .inr old
  exact (kept l [] h).resolve_right (by simp)

variable {P : Catalogue → Prop} {now : Moment}

/-- What receiving an observation with a new address keeps, placing a list of them keeps. -/
theorem placeAll_induct {l : List Observation}
    (receive : ∀ (c : Catalogue) ssid security, ∀ q ∈ l, ∀ o,
      placement? q = some (ssid, security, o) →
      o.address ∉ c.observations.map (·.address) → P c → P (c.receive ssid security now o))
    {i : Intake} (distinct : (l.map (·.address)).Nodup)
    (fresh : ∀ o ∈ l, o.address ∉ i.catalogue.observations.map (·.address))
    (h : P i.catalogue) : P (l.foldl (place now) i).catalogue := by
  induction l generalizing i with
  | nil => exact h
  | cons o rest ih =>
    rw [List.map_cons, List.nodup_cons] at distinct
    have others := fun c ssid security q hq => receive c ssid security q (List.mem_cons_of_mem _ hq)
    have placed := catalogue_place now i o
    rw [List.foldl_cons]
    cases home : placement? o with
    | none =>
      rw [home] at placed
      refine ih others distinct.2 ?_ (placed ▸ h)
      rw [placed]
      exact fun q hq => fresh q (by simp [hq])
    | some found =>
      obtain ⟨ssid, security, marked⟩ := found
      rw [home] at placed
      have address : marked.address = o.address :=
        congrArg AccessPoint.address (placement?_marked home).1
      have new : marked.address ∉ i.catalogue.observations.map (·.address) :=
        address ▸ fresh o (by simp)
      have first := receive _ ssid security o (by simp) marked home new h
      refine ih others distinct.2 ?_ (placed ▸ first)
      intro q hq
      have old := fresh q (by simp [hq])
      have other : q.address ≠ o.address := fun h => distinct.1 (h ▸ List.mem_map_of_mem hq)
      rw [placed, observations_receive, List.map_append, List.mem_append]
      simpa [address, other] using old

/-- The catalogue in which the access point in use, if there is one, has been put back. -/
def putBack (pin : Option Pin) (previous : List Observation) (c : Catalogue) : Catalogue :=
  match pin with
  | none => c
  | some p => (keepPinned p previous c).1

/-- A scan is taken in by placing what was heard, which keeps what receiving an observation keeps,
putting the access point in use back, and settling. -/
theorem ingest_placed (c : Catalogue) (observations : List Observation) (pin : Option Pin)
    (source : CredentialSource)
    (emptied :
      P { c with observations := [], networks := c.networks.map Network.clearAccessPoints })
    (receive : ∀ (d : Catalogue) ssid security, ∀ q ∈ observations, ∀ o,
      placement? q = some (ssid, security, o) →
      o.address ∉ d.observations.map (·.address) → P d → P (d.receive ssid security now o)) :
    ∃ d, P d ∧ (c.ingest observations pin source now).catalogue =
      ((putBack pin c.observations d).settle source).1 := by
  have placed := placeAll_induct
    (fun d ssid security q hq => receive d ssid security q (mem_of_mem_dedup hq))
    (i := { catalogue :=
      { c with observations := [], networks := c.networks.map Network.clearAccessPoints } })
    (nodup_dedup observations) (by simp) emptied
  refine ⟨_, placed, ?_⟩
  cases pin <;> rfl

/-- The catalogue that a scan leaves is settled from one that has everything which the emptied
catalogue has and the parts of taking in a scan keep. -/
theorem ingest_induct (c : Catalogue) (observations : List Observation) (pin : Option Pin)
    (source : CredentialSource)
    (emptied :
      P { c with observations := [], networks := c.networks.map Network.clearAccessPoints })
    (receive : ∀ (d : Catalogue) ssid security o,
      o.address ∉ d.observations.map (·.address) → P d → P (d.receive ssid security now o))
    (pinned : ∀ p d, P d → P (keepPinned p c.observations d).1) :
    ∃ d, P d ∧ (c.ingest observations pin source now).catalogue = (d.settle source).1 := by
  obtain ⟨d, placed, settled⟩ := ingest_placed c observations pin source emptied
    fun d ssid security _ _ o _ => receive d ssid security o
  refine ⟨_, ?_, settled⟩
  cases pin with
  | none => exact placed
  | some p => exact pinned p d placed

theorem device_keepPinned (pin : Pin) (previous : List Observation) (c : Catalogue) :
    (keepPinned pin previous c).1.device = c.device := by
  rcases keepPinned_cases pin previous c with h | ⟨_, _, _, _, _, h⟩ | ⟨_, _, _, _, h⟩ <;>
    simp [h, modify]

@[simp] theorem device_ingest (c : Catalogue) (observations : List Observation) (pin : Option Pin)
    (source : CredentialSource) (now : Moment) :
    (c.ingest observations pin source now).catalogue.device = c.device := by
  obtain ⟨d, same, settled⟩ := ingest_induct (P := fun d => d.device = c.device) c observations pin
    source rfl
    (fun d ssid security o _ h => (device_receive ssid security now o d).trans h)
    (fun p d h => (device_keepPinned p c.observations d).trans h)
  rw [settled]
  exact same

end WirelessStation.Catalogue
