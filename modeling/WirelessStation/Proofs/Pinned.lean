import WirelessStation.Catalogue.Ingest

/-! # The access point in use stays in the catalogue

A catalogue places an access point with a network if it holds the network, the network lists the
access point and there is a current observation of it (`Places`).  Supplying or distrusting a secret
keeps that (`Places.modify`), and so does taking in a scan with the access point as the pin,
whatever was heard (`Places.ingest`): observations only add networks and change none of their names
(`isSome_network?_place`), the pin is put back in each of the cases that it has been heard as
before, heard under another network or not heard at all (`places_keepPinned`), and networks with an
access point do not leave (`Places.settle`). -/

namespace WirelessStation

namespace Network

@[simp] theorem path_attach (o : Observation) (n : Network) : (n.attach o).path = n.path := rfl

@[simp] theorem path_updateRank (modifier : Option Float) (n : Network) :
    (n.updateRank modifier).path = n.path := rfl

@[simp] theorem hasAccessPoint_updateRank (modifier : Option Float) (n : Network) (a : Address) :
    (n.updateRank modifier).hasAccessPoint a = n.hasAccessPoint a := rfl

@[simp] theorem path_supply (settings : Settings) (n : Network) :
    (n.supply settings).path = n.path := rfl

@[simp] theorem hasAccessPoint_supply (settings : Settings) (n : Network) (a : Address) :
    (n.supply settings).hasAccessPoint a = n.hasAccessPoint a := rfl

@[simp] theorem path_connectFailed (n : Network) : n.connectFailed.path = n.path := by
  unfold connectFailed
  split
  · rfl
  · split <;> rfl

@[simp] theorem hasAccessPoint_connectFailed (n : Network) (a : Address) :
    n.connectFailed.hasAccessPoint a = n.hasAccessPoint a := by
  unfold connectFailed
  split
  · rfl
  · split <;> rfl

@[simp] theorem path_syncCredentials (n : Network) : n.syncCredentials.1.path = n.path := by
  unfold syncCredentials
  split <;> rfl

@[simp] theorem hasAccessPoint_syncCredentials (n : Network) (a : Address) :
    n.syncCredentials.1.hasAccessPoint a = n.hasAccessPoint a := by
  unfold syncCredentials
  split <;> rfl

theorem accessPoints_ne_nil {n : Network} {a : Address} (h : n.hasAccessPoint a = true) :
    n.accessPoints.isEmpty = false := by
  cases none : n.accessPoints with
  | nil => simp [hasAccessPoint, none] at h
  | cons p rest => rfl

end Network

theorem AccessPoint.mem_insertRanked (a : AccessPoint) (l : List AccessPoint) :
    a ∈ a.insertRanked l := by
  induction l with
  | nil => simp [insertRanked]
  | cons b rest ih =>
    unfold insertRanked
    split
    · simp
    · simp [ih]

/-- A network has an access point once an observation of it is attached. -/
theorem Network.hasAccessPoint_attach (o : Observation) (n : Network) :
    (n.attach o).hasAccessPoint o.address = true := by
  have there := o.accessPoint.mem_insertRanked n.accessPoints
  exact List.any_eq_true.2 ⟨o.accessPoint, there, by simp [Observation.accessPoint]⟩

namespace Catalogue

variable {c : Catalogue} {network path : String} {a : Address}

theorem path_of_network? {n : Network} (h : c.network? path = some n) : n.path = path := by
  simpa using List.find?_some h

theorem address_of_observation? {l : List Observation} {o : Observation}
    (h : (l.find? fun o => o.address == a) = some o) : o.address = a := by
  simpa using List.find?_some h

/-- Changing the network with one path, and not its path, changes what is found under that path. -/
theorem network?_modify {change : Network → Network}
    (keeps : ∀ n, n.path = path → (change n).path = path) (other : String) :
    (c.modify path change).network? other =
      if other = path then (c.network? other).map change else c.network? other := by
  have same (n : Network) :
      ((if n.path = path then change n else n).path == other) = (n.path == other) := by
    by_cases h : n.path = path
    · rw [if_pos h, keeps n h, h]
    · rw [if_neg h]
  have found : (c.modify path change).network? other =
      (c.network? other).map fun n => if n.path = path then change n else n := by
    simp only [network?, modify, List.find?_map, Function.comp_def, same]
  rw [found]
  cases h : c.network? other with
  | none => simp
  | some n =>
    rw [Option.map_some, path_of_network? h]
    split <;> rfl

theorem isSome_network?_modify {change : Network → Network}
    (keeps : ∀ n, n.path = path → (change n).path = path) (other : String) :
    ((c.modify path change).network? other).isSome = (c.network? other).isSome := by
  rw [network?_modify keeps]
  split <;> simp

/-- The catalogue knows an access point as one of a network, and has an observation of it. -/
structure Places (c : Catalogue) (network : String) (a : Address) : Prop where
  listed : ∃ n, c.network? network = some n ∧ n.hasAccessPoint a = true
  observed : (c.observation? a).isSome = true

theorem Places.modify {change : Network → Network} (h : c.Places network a)
    (keeps : ∀ n, n.path = path → (change n).path = path)
    (more : ∀ n, c.network? path = some n → n.hasAccessPoint a = true →
      (change n).hasAccessPoint a = true) :
    (c.modify path change).Places network a := by
  obtain ⟨n, found, has⟩ := h.listed
  refine ⟨?_, h.observed⟩
  rw [network?_modify keeps]
  by_cases here : network = path
  · subst here
    exact ⟨change n, by simp [found], more n found has⟩
  · exact ⟨n, by simp [here, found], has⟩

/-! ### Taking in a scan -/

@[simp] theorem path_attachSeen (now : Moment) (o : Observation) (n : Network) :
    (attachSeen now o n).path = n.path := by
  unfold attachSeen
  split <;> rfl

/-- No network leaves while observations are placed. -/
theorem isSome_network?_place (now : Moment) {i : Intake} (o : Observation)
    (h : (i.catalogue.network? path).isSome = true) :
    ((place now i o).catalogue.network? path).isSome = true := by
  unfold place
  split
  next => exact h
  next ssid security marked _ =>
    let home := networkPath i.catalogue.device ssid security
    have ensured :
        (((i.catalogue.ensure home ssid security now).1).network? path).isSome = true := by
      unfold ensure
      split
      · exact h
      · simp only [network?, List.find?_append] at h ⊢
        simp [h]
    have keeps : ∀ n : Network, n.path = home → (attachSeen now marked n).path = home :=
      fun n hn => by simp [hn]
    have modified := isSome_network?_modify (c := (i.catalogue.ensure home ssid security now).1)
      keeps path
    exact modified.trans ensured

theorem isSome_network?_placeAll (now : Moment) {i : Intake} (l : List Observation)
    (h : (i.catalogue.network? path).isSome = true) :
    ((l.foldl (place now) i).catalogue.network? path).isSome = true := by
  induction l generalizing i with
  | nil => exact h
  | cons o rest ih => exact ih (isSome_network?_place now o h)

/-- The pin is put back: it is left where it was heard, attached if it was heard elsewhere, and
carried over if it was not heard. -/
theorem places_keepPinned {previous : List Observation} (known : (c.network? network).isSome = true)
    (heard : (previous.find? fun o => o.address == a).isSome = true) :
    (keepPinned ⟨network, a⟩ previous c).1.Places network a := by
  obtain ⟨n, found⟩ := Option.isSome_iff_exists.1 known
  have attached (o : Observation) (there : o.address = a) :
      (c.modify network (Network.attach o)).network? network = some (n.attach o) ∧
        (n.attach o).hasAccessPoint a = true := by
    have keeps : ∀ n : Network, n.path = network → (n.attach o).path = network := fun _ h => h
    refine ⟨?_, there ▸ n.hasAccessPoint_attach o⟩
    rw [network?_modify keeps, if_pos rfl, found, Option.map_some]
  simp only [keepPinned, found]
  cases current : c.observation? a with
  | some o =>
    simp only
    split
    next has => exact ⟨⟨n, found, has⟩, by simp [current]⟩
    next => exact ⟨⟨_, attached o (address_of_observation? current)⟩, by
      simpa [observation?, modify] using Option.isSome_of_eq_some current⟩
  | none =>
    obtain ⟨o, carried⟩ := Option.isSome_iff_exists.1 heard
    have there := address_of_observation? carried
    simp only [carried]
    refine ⟨⟨_, attached o there⟩, ?_⟩
    simp [observation?, List.find?_append, there]

/-- What is found first is found first also among those that pass a test which it passes. -/
theorem find?_filter_of {α : Type} {p q : α → Bool} {l : List α} {x : α} (h : l.find? q = some x)
    (hp : p x = true) : (l.filter p).find? q = some x := by
  rw [List.find?_eq_some_iff_append] at h
  obtain ⟨hq, before, after, rfl, none⟩ := h
  rw [List.filter_append, List.filter_cons_of_pos hp, List.find?_eq_some_iff_append]
  refine ⟨hq, before.filter p, after.filter p, rfl, fun y hy => ?_⟩
  exact none y (List.mem_filter.1 hy).1

/-- Networks with an access point do not leave. -/
theorem Places.settle (h : c.Places network a) (source : CredentialSource) :
    (c.settle source).1.Places network a := by
  obtain ⟨n, found, has⟩ := h.listed
  refine ⟨⟨n.updateRank (n.modifierFrom source), ?_, by simpa using has⟩, h.observed⟩
  have kept := find?_filter_of (p := fun n => !n.accessPoints.isEmpty) found
    (by simp [Network.accessPoints_ne_nil has])
  simp only [Catalogue.settle, network?, List.find?_map, Function.comp_def,
    Network.path_updateRank]
  rw [kept, Option.map_some]

/-- After a scan that was taken in with an access point in use, the catalogue still places it. -/
theorem Places.ingest (h : c.Places network a) (observations : List Observation)
    (source : CredentialSource) (now : Moment) :
    (c.ingest observations (some ⟨network, a⟩) source now).catalogue.Places network a := by
  obtain ⟨n, found, _⟩ := h.listed
  let emptied : Catalogue :=
    { c with observations := [], networks := c.networks.map Network.clearAccessPoints }
  have known : (emptied.network? network).isSome = true := by
    have same : ∀ n : Network, n.clearAccessPoints.path = n.path := fun _ => rfl
    simp only [network?, emptied, List.find?_map, Function.comp_def, same]
    rw [Option.isSome_map]
    exact Option.isSome_of_eq_some found
  have placed := isSome_network?_placeAll now (i := { catalogue := emptied }) (dedup observations)
    known
  exact (places_keepPinned placed h.observed).settle source

end Catalogue

end WirelessStation
