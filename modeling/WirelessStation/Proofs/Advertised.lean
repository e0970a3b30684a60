import Mathlib.Data.List.DropRight
import WirelessStation.Proofs.Calls
import WirelessStation.Proofs.Connection
import WirelessStation.Proofs.Names
import WirelessStation.Proofs.Rekeying

/-! # Attempts are made at access points that advertise their network

An observation goes to the network that it advertises, so that whatever a network lists advertises
it, with one exception: the access point in use stays on its network even if a scan hears it under
another one.  It stays there for later attempts too, until a scan is taken in without it in use
(`Strayed`).

* `shown_ingest`: what a scan leaves listed is advertised, but for the access point in use.
* `Run.shown`: so is everything that is listed in a run, but for access points that strayed.
* `attempts_advertised`: and therefore the target of every attempt. -/

namespace WirelessStation

/-! ### Networks and what they list -/

/-- An observation shows the SSID and the security type of a network. -/
structure Observation.Advertises (o : Observation) (n : Network) : Prop where
  ssid : Utf8.decode? o.ssid = some n.ssid
  security : o.classify.map Prod.fst = .ok n.security

theorem Observation.Advertises.congr {o : Observation} {n n' : Network} (h : o.Advertises n)
    (ssid : n'.ssid = n.ssid) (security : n'.security = n.security) : o.Advertises n' := by
  refine ⟨?_, ?_⟩
  · rw [ssid]
    exact h.ssid
  · rw [security]
    exact h.security

/-- An observation advertises one network at most. -/
theorem Observation.Advertises.unique {o : Observation} {n n' : Network} (h : o.Advertises n)
    (h' : o.Advertises n') : n'.ssid = n.ssid ∧ n'.security = n.security := by
  have ssid := h.ssid.symm.trans h'.ssid
  have security := h.security.symm.trans h'.security
  rw [Option.some.injEq] at ssid
  rw [Except.ok.injEq] at security
  exact ⟨ssid.symm, security.symm⟩

/-- Networks on file in catalogues of one interface have one name exactly if they have one SSID and
one security type. -/
theorem Network.OnFile.path_inj {c d : Catalogue} {n n' : Network} (h : n.OnFile c)
    (h' : n'.OnFile d) (device : d.device = c.device) :
    n'.path = n.path ↔ n'.ssid = n.ssid ∧ n'.security = n.security := by
  rw [h.path_eq, h'.path_eq, device, networkPath_inj]

/-- With an observation attached a network lists its address, and those that it listed before. -/
theorem Network.Attached.listed {o : Observation} {n n' : Network}
    (h : Attached o n n') {a : Address} (ha : a ∈ n'.accessPoints.map (·.address)) :
    a = o.address ∨ a ∈ n.accessPoints.map (·.address) := by
  rw [h.accessPoints] at ha
  obtain ⟨p, hp, rfl⟩ := List.mem_map.1 ha
  rcases AccessPoint.mem_insertRanked_iff.1 hp with rfl | hp
  · exact .inl rfl
  · exact .inr (List.mem_map_of_mem hp)

namespace Catalogue

/-- An observation goes to the network that it advertises. -/
theorem advertises_of_placement? {q o : Observation} {ssid : String} {security : Security}
    {n : Network} (h : placement? q = some (ssid, security, o)) (hs : n.ssid = ssid)
    (ht : n.security = security) : o.Advertises n := by
  have again := (placement?_marked h).2
  unfold placement? at again
  split at again
  next readable =>
    simp only [Observation.hasReadableSsid, Bool.and_eq_true, Option.isSome_iff_exists] at readable
    obtain ⟨_, text, decoded⟩ := readable
    cases classified : o.classify with
    | error e => simp [classified] at again
    | ok found =>
      simp only [classified, ssidText, decoded, Option.getD_some, Option.some.injEq,
        Prod.mk.injEq] at again
      obtain ⟨rfl, rfl, _⟩ := again
      exact ⟨by rw [decoded, hs], by rw [classified, ht]; rfl⟩
  next => cases again

/-- Whatever a network lists advertises it, unless it strayed. -/
def Shown (c : Catalogue) (strayed : String → Address → Prop) : Prop :=
  ∀ n ∈ c.networks, ∀ o ∈ c.observations, o.address ∈ n.accessPoints.map (·.address) →
    o.Advertises n ∨ strayed n.path o.address

theorem mem_networks_ensure {c : Catalogue} {path ssid : String} {security : Security}
    {now : Moment} {n : Network} (h : n ∈ (c.ensure path ssid security now).1.networks) :
    n ∈ c.networks ∨ n.accessPoints = [] := by
  unfold ensure at h
  split at h
  · exact .inl h
  · rcases List.mem_append.1 h with old | new
    · exact .inl old
    · rw [List.mem_singleton.1 new]
      exact .inr rfl

namespace Shown

variable {c : Catalogue} {strayed : String → Address → Prop}

theorem imp {strayed' : String → Address → Prop} (h : c.Shown strayed)
    (more : ∀ network a, strayed network a → strayed' network a) : c.Shown strayed' :=
  fun n hn o ho listed => (h n hn o ho listed).imp_right (more _ _)

theorem ensure (h : c.Shown strayed) (path ssid : String) (security : Security) (now : Moment) :
    (c.ensure path ssid security now).1.Shown strayed := by
  intro n hn o ho listed
  rw [observations_ensure] at ho
  rcases mem_networks_ensure hn with there | nothing
  · exact h n there o ho listed
  · simp [nothing] at listed

/-- An observation may be attached to a network that it advertises or from which it strayed. -/
theorem attach (h : c.Shown strayed) (filed : c.Filed) {o : Observation} {path : String}
    {change : Network → Network} (attaches : ∀ n, Network.Attached o n (change n))
    (new : List Observation) (current : o ∈ c.observations ++ new)
    (distinct : ((c.observations ++ new).map (·.address)).Nodup)
    (reason : ∀ n ∈ c.networks, n.path = path → o.Advertises n ∨ strayed path o.address) :
    ({ c with observations := c.observations ++ new }.modify path change).Shown strayed := by
  intro n' hn' p hp listed
  have only : ∀ q ∈ c.observations ++ new, q.address = p.address → q = p :=
    fun q hq => List.inj_on_of_nodup_map distinct hq hp
  obtain ⟨n, hn, rfl⟩ := mem_networks_modify.1 hn'
  have before : p.address ∈ n.accessPoints.map (·.address) →
      p.Advertises n ∨ strayed n.path p.address := by
    intro listed
    obtain ⟨q, hq, address⟩ := List.mem_map.1 ((filed.networks n hn).observed listed)
    obtain rfl := only q (List.mem_append_left _ hq) address
    exact h n hn q hq listed
  by_cases home : n.path = path
  · have attached := attaches n
    rw [if_pos home] at listed ⊢
    have shown : p.Advertises n ∨ strayed n.path p.address := by
      rcases attached.listed listed with same | old
      · obtain rfl := only o current same.symm
        rw [home]
        exact reason n hn home
      · exact before old
    rw [attached.path]
    exact shown.imp_left fun shows => shows.congr attached.ssid attached.security
  · rw [if_neg home] at listed ⊢
    exact before listed

/-- An observation that is received advertises the network that lists it. -/
theorem receive (h : c.Shown strayed) (filed : c.Filed) {now : Moment} {q o : Observation}
    {ssid : String} {security : Security} (placed : placement? q = some (ssid, security, o))
    (fresh : o.address ∉ c.observations.map (·.address)) :
    (c.receive ssid security now o).Shown strayed := by
  have ensured := filed.ensure ssid security now
  have attaches := attached_attachSeen now o
  refine (h.ensure _ ssid security now).attach ensured attaches [o] (by simp) ?_ ?_
  · rw [observations_ensure, List.map_append]
    refine filed.addresses.append (List.nodup_singleton _) ?_
    simpa using fresh
  · intro n hn home
    have named := (ensured.networks n hn).path_eq
    rw [home, device_ensure, networkPath_inj] at named
    exact .inl (advertises_of_placement? placed named.1.symm named.2.symm)

/-- The access point in use is put back on its network, whether it advertises it or not.  It does
not if it was heard as one of another network, or if it did not before. -/
theorem keepPinned (h : c.Shown fun _ _ => False) (filed : c.Filed) (pin : Pin)
    (previous : List Observation) {strays : Prop}
    (elsewhere : ∀ n o, c.network? pin.network = some n → o ∈ c.observations →
      o.address = pin.address → ¬o.Advertises n → strays)
    (carried : ∀ n o, c.network? pin.network = some n →
      (previous.find? fun o => o.address == pin.address) = some o → o.Advertises n ∨ strays) :
    (Catalogue.keepPinned pin previous c).1.Shown
      fun network a => network = pin.network ∧ a = pin.address ∧ strays := by
  have kept : c.Shown fun network a => network = pin.network ∧ a = pin.address ∧ strays :=
    h.imp fun _ _ no => no.elim
  rcases keepPinned_cases pin previous c with same | ⟨n, o, found, lacks, current, attached⟩ |
    ⟨o, missing, heard, known, attached⟩
  · rw [same]
    exact kept
  · have there : o ∈ c.observations := List.mem_of_find?_eq_some current
    have address := address_of_observation? current
    -- It was placed, and not with this network, so this is not the one that it advertises.
    have strays : strays := by
      refine elsewhere n o found there address fun shows => ?_
      obtain ⟨home, hn, lists⟩ := filed.listed o there
      have listed : o.address ∈ home.accessPoints.map (·.address) :=
        List.mem_map_of_mem (f := AccessPoint.address) lists
      have elsewhere := (h home hn o there listed).resolve_right id
      have onFile := filed.networks n (List.mem_of_find?_eq_some found)
      have same := (onFile.path_inj (filed.networks home hn) rfl).2 (shows.unique elsewhere)
      obtain rfl := filed.eq_of_network? found hn (same.trans (path_of_network? found))
      have has : home.hasAccessPoint pin.address = true :=
        List.any_eq_true.2 ⟨_, lists, by simp [Observation.accessPoint, address]⟩
      rw [lacks] at has
      cases has
    rw [attached]
    have attaches := Network.attached_attach o
    have addresses := filed.addresses
    simpa using kept.attach filed attaches [] (by simpa using there) (by simpa using addresses)
      fun _ _ _ => .inr ⟨rfl, address, strays⟩
  · rw [attached]
    obtain ⟨n, found⟩ := Option.isSome_iff_exists.1 known
    have address : o.address = pin.address := address_of_observation? heard
    refine kept.attach filed (Network.attached_attach o) [o] (by simp) ?_ ?_
    · rw [List.map_append]
      refine filed.addresses.append (List.nodup_singleton _) ?_
      simpa [observation?, address] using missing
    · intro n' hn' home
      obtain rfl := filed.eq_of_network? found hn' home
      exact (carried n' o found heard).imp_right fun strays => ⟨rfl, address, strays⟩

theorem settle (h : c.Shown strayed) (source : CredentialSource) :
    (c.settle source).1.Shown strayed := by
  intro n' hn' o ho listed
  obtain ⟨n, hn, _, rfl⟩ := mem_networks_settle.1 hn'
  exact (h n hn o ho listed).imp_left fun shows => shows.congr rfl rfl

theorem rekeyed {d : Catalogue} (h : c.Shown strayed) (r : c.Rekeyed d) : d.Shown strayed := by
  intro n' hn' o ho listed
  obtain ⟨n, hn, _, _, rfl⟩ := r.exists_before hn'
  rw [r.observations] at ho
  exact (h n hn o ho listed).imp_left fun shows => shows.congr rfl rfl

end Shown

/-- Among observations there is one of an access point that goes to another network. -/
def HeardElsewhere (device : String) (observations : List Observation) (network : String)
    (a : Address) : Prop :=
  ∃ q ∈ observations, q.address = a ∧
    ∃ ssid security o, placement? q = some (ssid, security, o) ∧
      networkPath device ssid security ≠ network

/-- A catalogue of an interface in which everything has been placed out of some observations and
advertises the network that lists it. -/
structure Placed (device : String) (observations : List Observation) (c : Catalogue) : Prop where
  filed : c.Filed
  shown : c.Shown fun _ _ => False
  device_eq : c.device = device
  heard : ∀ o ∈ c.observations, ∃ q ∈ observations, ∃ ssid security,
    placement? q = some (ssid, security, o)

namespace Placed

variable {c d : Catalogue} {device : String} {observations : List Observation}

theorem emptied (filed : c.Filed) (observations : List Observation) :
    Placed c.device observations
      { c with observations := [], networks := c.networks.map Network.clearAccessPoints } where
  filed := filed.emptied
  shown := by simp [Shown]
  device_eq := rfl
  heard := by simp

theorem receive (h : Placed device observations c) {now : Moment} {q o : Observation}
    (there : q ∈ observations) {ssid : String} {security : Security}
    (home : placement? q = some (ssid, security, o))
    (fresh : o.address ∉ c.observations.map (·.address)) :
    Placed device observations (c.receive ssid security now o) where
  filed := h.filed.receive ssid security fresh
  shown := h.shown.receive h.filed home fresh
  device_eq := by rw [device_receive, h.device_eq]
  heard p hp := by
    rw [observations_receive, List.mem_append, List.mem_singleton] at hp
    rcases hp with old | rfl
    · exact h.heard p old
    · exact ⟨q, there, ssid, security, home⟩

/-- An observation that was placed is of an access point that goes to the network it advertises. -/
theorem heardElsewhere (h : Placed device observations c) {n : Network} {o : Observation}
    {network : String} {a : Address} (found : c.network? network = some n)
    (there : o ∈ c.observations) (address : o.address = a) (other : ¬o.Advertises n) :
    HeardElsewhere device observations network a := by
  obtain ⟨q, hq, ssid, security, home⟩ := h.heard o there
  have same : o.address = q.address := congrArg AccessPoint.address (placement?_marked home).1
  refine ⟨q, hq, same.symm.trans address, ssid, security, o, home, fun named => other ?_⟩
  have onFile := h.filed.networks n (List.mem_of_find?_eq_some found)
  have path := (path_of_network? found).symm.trans onFile.path_eq
  rw [← named, h.device_eq, networkPath_inj] at path
  exact advertises_of_placement? home path.1.symm path.2.symm

/-- An access point in use that was not heard is carried over, and advertises its network if it did
before. -/
theorem carried (h : Placed c.device observations d) (filed : c.Filed)
    {strayed : String → Address → Prop} (shown : c.Shown strayed) {network : String} {a : Address}
    (placed : c.Places network a) {n : Network} {o : Observation}
    (found : d.network? network = some n)
    (heard : (c.observations.find? fun o => o.address == a) = some o) :
    o.Advertises n ∨ strayed network a := by
  obtain ⟨before, found', has⟩ := placed.listed
  have hn := List.mem_of_find?_eq_some found'
  have address : o.address = a := address_of_observation? heard
  have listed : o.address ∈ before.accessPoints.map (·.address) := by
    rw [address]
    simpa [Network.hasAccessPoint] using has
  have onFile := filed.networks before hn
  have onFile' := h.filed.networks n (List.mem_of_find?_eq_some found)
  have same := (path_of_network? found).trans (path_of_network? found').symm
  obtain ⟨ssid, security⟩ := (onFile.path_inj onFile' h.device_eq).1 same
  have advertised := shown before hn o (List.mem_of_find?_eq_some heard) listed
  rw [path_of_network? found', address] at advertised
  exact advertised.imp_left fun shows => shows.congr ssid security

end Placed

/-- After a scan every access point that is listed advertises its network, except for the one in use
if the scan heard it elsewhere or it strayed before. -/
theorem shown_ingest {c : Catalogue} (filed : c.Filed) {strayed : String → Address → Prop}
    (shown : c.Shown strayed) (observations : List Observation) (pin : Option Pin)
    (placed : ∀ p, pin = some p → c.Places p.network p.address) (source : CredentialSource)
    (now : Moment) :
    (c.ingest observations pin source now).catalogue.Shown fun network a =>
      pin = some ⟨network, a⟩ ∧
        (HeardElsewhere c.device observations network a ∨ strayed network a) := by
  obtain ⟨d, whole, settled⟩ := ingest_placed (P := Placed c.device observations) c observations pin
    source (.emptied filed observations)
    fun d ssid security q hq o home fresh h => h.receive hq home fresh
  rw [settled]
  refine Shown.settle ?_ source
  cases pin with
  | none => exact whole.shown.imp fun _ _ no => no.elim
  | some pin =>
    let strays : Prop :=
      HeardElsewhere c.device observations pin.network pin.address ∨
        strayed pin.network pin.address
    have elsewhere : ∀ n o, d.network? pin.network = some n → o ∈ d.observations →
        o.address = pin.address → ¬o.Advertises n → strays :=
      fun n o found there address other => .inl (whole.heardElsewhere found there address other)
    have carried : ∀ n o, d.network? pin.network = some n →
        (c.observations.find? fun o => o.address == pin.address) = some o →
        o.Advertises n ∨ strays :=
      fun n o found heard =>
        (whole.carried filed shown (placed pin rfl) found heard).imp_right .inr
    refine (whole.shown.keepPinned whole.filed pin c.observations elsewhere carried).imp ?_
    rintro _ _ ⟨rfl, rfl, strays⟩
    exact ⟨rfl, strays⟩

end Catalogue

namespace Station

/-! ### Runs -/

/-- A move takes in no scan, or one while a connection is held. -/
def Move.pins (c : Connection) (m : Move) : Bool :=
  m.scan?.isNone || m.before.connection == some c

/-- The access point of a connection was heard as one of another network, and no scan has been taken
in since without the connection. -/
def Strayed (moves : List Move) (c : Connection) : Prop :=
  ∃ m ∈ moves.rtakeWhile (Move.pins c), ∃ observations, m.scan? = some observations ∧
    Catalogue.HeardElsewhere m.before.catalogue.device observations c.network c.address

namespace Strayed

variable {moves : List Move} {m : Move} {c : Connection}

theorem concat (h : Strayed moves c) (pins : m.pins c = true) : Strayed (moves ++ [m]) c := by
  obtain ⟨scan, there, elsewhere⟩ := h
  refine ⟨scan, ?_, elsewhere⟩
  rw [List.rtakeWhile_concat_pos _ _ _ pins]
  exact List.mem_append_left _ there

theorem of_heard {observations : List Observation} (moves : List Move) (pins : m.pins c = true)
    (scanned : m.scan? = some observations)
    (elsewhere : Catalogue.HeardElsewhere m.before.catalogue.device observations c.network
      c.address) : Strayed (moves ++ [m]) c := by
  refine ⟨m, ?_, observations, scanned, elsewhere⟩
  rw [List.rtakeWhile_concat_pos _ _ _ pins]
  simp

end Strayed

/-- In the catalogue in which a move looks for its targets everything that is listed advertises its
network unless it strayed. -/
theorem Move.shown_informed {moves : List Move} {m : Move} (linked : Linked m.before)
    (filed : m.before.catalogue.Filed)
    (shown : m.before.catalogue.Shown fun network a => Strayed moves ⟨network, a⟩) :
    m.informed.catalogue.Shown fun network a => Strayed (moves ++ [m]) ⟨network, a⟩ := by
  rw [catalogue_informed]
  cases scanned : m.scan? with
  | none => exact shown.imp fun _ _ strayed => strayed.concat (by simp [pins, scanned])
  | some observations =>
    have held {network : String} {a : Address}
        (pin : Turn.pin m.before = some ⟨network, a⟩) :
        m.before.connection = some ⟨network, a⟩ := by
      obtain ⟨c, held, same⟩ := Option.map_eq_some_iff.1 pin
      cases same
      exact held
    have placed : ∀ p, Turn.pin m.before = some p →
        m.before.catalogue.Places p.network p.address := fun p pin => linked.placed _ (held pin)
    refine (Catalogue.shown_ingest filed shown observations _ placed m.env.store m.env.now).imp ?_
    rintro network a ⟨pin, elsewhere | strayed⟩
    · exact .of_heard moves (by simp [pins, held pin]) scanned elsewhere
    · exact strayed.concat (by simp [pins, held pin])

/-- At every moment of a run everything that is listed advertises its network unless it strayed. -/
theorem Run.shown {i : Interface} {config : Config} {moves : List Move} {s : Station}
    (run : Run (.new i config) moves s) :
    s.catalogue.Shown fun network a => Strayed moves ⟨network, a⟩ := by
  induction run with
  | start => simp [Catalogue.Shown, new]
  | @move moves s run env op live ih =>
    let m : Move := ⟨s, env, op⟩
    have filed := run.settled.toFiled
    have informed := Move.shown_informed (m := m) run.linked filed ih
    have found := m.catalogue_informed
    rcases Move.catalogue_cases (m := m) live filed with ⟨observations, scanned, taken⟩ |
      ⟨_, _, dropped⟩ | ⟨unscanned, rekeyed⟩
    · rw [scanned] at found
      exact (taken.trans found.symm) ▸ informed
    · show m.after.catalogue.Shown _
      rw [dropped]
      simp [Catalogue.Shown, Catalogue.clear]
    · rw [unscanned] at found
      exact (found ▸ informed).rekeyed rekeyed

/-- Whatever the link layer is asked for in a run, the observation that it is given advertises the
network at which the attempt is made, unless the access point strayed: a scan heard it as one of
another network, and every scan since then was taken in while the station held a connection to it.
-/
theorem attempts_advertised {i : Interface} {config : Config} {moves : List Move} {s : Station}
    (run : Run (.new i config) moves s) {earlier : List Move} {m : Move}
    (there : earlier ++ [m] <+: moves) :
    List.SublistForall₂
      (fun (call : Observation × Option Context) (target : Connection) =>
        ∃ n, m.informed.catalogue.network? target.network = some n ∧
          m.informed.catalogue.observation? target.address = some call.1 ∧
          (call.1.Advertises n ∨ Strayed (earlier ++ [m]) target))
      (m.picked asked) m.targets := by
  obtain ⟨before, _⟩ := run.of_prefix_concat there
  have shown := Move.shown_informed (m := m) before.linked before.settled.toFiled before.shown
  refine Move.asked_of_planned fun call target h => ?_
  obtain ⟨n, found, has, current, _⟩ := Turn.plan_eq_ok_iff.1 h
  refine ⟨n, found, current, ?_⟩
  have address : call.1.address = target.address := Catalogue.address_of_observation? current
  have listed : call.1.address ∈ n.accessPoints.map (·.address) := by
    rw [address]
    simpa [Network.hasAccessPoint] using has
  have advertised := shown n (List.mem_of_find?_eq_some found) call.1
    (List.mem_of_find?_eq_some current) listed
  rwa [Catalogue.path_of_network? found, address] at advertised

/-- The access point under another SSID. -/
def Sample.other : Observation :=
  { Sample.observation with ssid := [0x42] }

/-- A connection is lost after a scan has heard its access point under another SSID. -/
def Sample.renamed : List (Surroundings × Operation) :=
  Sample.hearing ++
    [(Sample.surroundings true, .connect Sample.network Sample.accessPoint none),
      (Sample.surroundings true, .notify (.connectResult .success)),
      (Sample.surroundings true, .notify (.scanResults [Sample.other])),
      (Sample.surroundings true, .notify (.event .lostBeacon))]

theorem Sample.run_renamed :
    Run Sample.station (Sample.station.play Sample.renamed)
      (Sample.station.played Sample.renamed) :=
  Sample.run Sample.renamed (by simp [Sample.renamed, Sample.hearing])

/-- Another attempt at the access point on the network that it was heard as before. -/
def Sample.again : Move :=
  ⟨Sample.station.played Sample.renamed, Sample.surroundings true,
    .connect Sample.network Sample.accessPoint none⟩

theorem Sample.asked_again :
    Sample.again.picked asked = [(Sample.other, none)] ∧
      (Sample.again.informed.catalogue.network? Sample.network).map (·.ssid) = some "A" := by
  constructor <;> decide +kernel

theorem Sample.not_advertises_other {n : Network} (h : n.ssid = "A") :
    ¬Sample.other.Advertises n := by
  intro shows
  have ssid := shows.ssid
  rw [h] at ssid
  exact absurd ssid (by decide +kernel)

/-- The access point of this attempt strayed. -/
theorem attempts_advertised_renamed :
    Strayed (Sample.station.play Sample.renamed ++ [Sample.again])
      ⟨Sample.network, Sample.accessPoint⟩ := by
  have run := Sample.run_renamed.move Sample.again.env Sample.again.op (by simp [Sample.again])
  have advertised := attempts_advertised run (m := Sample.again) List.prefix_rfl
  obtain ⟨only, named⟩ := Sample.asked_again
  rw [only, show Sample.again.targets = [⟨Sample.network, Sample.accessPoint⟩] from rfl]
    at advertised
  cases advertised with
  | cons here _ =>
    obtain ⟨n, found, _, shows | strayed⟩ := here
    · rw [found, Option.map_some, Option.some.injEq] at named
      exact absurd shows (Sample.not_advertises_other named)
    · exact strayed
  | cons_right none => cases none

/-- The attempt is made with an observation that does not advertise its network. -/
theorem unadvertised_attempt :
    Run Sample.station (Sample.station.play Sample.renamed) Sample.again.before ∧
      Sample.again.op = .connect Sample.network Sample.accessPoint none ∧
      ∃ o n, Sample.again.picked asked = [(o, none)] ∧
        Sample.again.informed.catalogue.network? Sample.network = some n ∧
        Utf8.decode? o.ssid = some "B" ∧ n.ssid = "A" ∧ ¬o.Advertises n := by
  obtain ⟨only, named⟩ := Sample.asked_again
  obtain ⟨n, found, ssid⟩ := Option.map_eq_some_iff.1 named
  exact ⟨Sample.run_renamed, rfl, _, n, only, found, by decide +kernel, ssid,
    Sample.not_advertises_other ssid⟩

end Station

end WirelessStation
