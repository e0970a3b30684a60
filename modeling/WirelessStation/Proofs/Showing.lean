import Mathlib.Data.Finset.Basic
import WirelessStation.Bus.Service
import WirelessStation.Proofs.Replay
import WirelessStation.Proofs.Resolving

/-! # What stations show

A station shows a device and an enrollment at its own path, and its networks right below it
(`Station.Shows`).  All interfaces of a manager are named under one root, so their paths have
equally many slashes, and those of networks one more.  No path of a network is above that of another
object, therefore (`Shown.not_below_network`), what is below the path of an interface are its own
networks (`Elsewhere.not_below`), and no two objects have a path and a role in common (`Shown.eq`).

Whatever the object server, objects therefore come and go one by one: registering one adds it
(`Lawful.has_register`), and withdrawing one takes nothing else away (`Lawful.has_withdraw`).  The
networks that the pump registers and withdraws are those whose coming and going it is told of
(`Kept.follow`). -/

namespace WirelessStation

namespace Bus

/-! ### Single objects -/

namespace Server

variable {σ : Type} {server : Server σ}

/-- Whether an object is at a path. -/
def Has (server : Server σ) (t : σ) (x : String × Object) : Prop :=
  server.object? t x.1 x.2.role = some x.2

theorem Same.has_iff {t t' : σ} (same : server.Same t t') (x : String × Object) :
    server.Has t' x ↔ server.Has t x := by
  rw [Has, Has, same]

namespace Lawful

variable (lawful : server.Lawful)

include lawful

variable {t : σ} {path : String} {role : Role} {o : Object} {x : String × Object}

theorem object?_eq_some_iff :
    server.object? t path role = some o ↔ server.Has t (path, o) ∧ o.role = role := by
  constructor
  · intro found
    obtain rfl := lawful.role_eq found
    exact ⟨found, rfl⟩
  · rintro ⟨found, rfl⟩
    exact found

/-- Registering an object at a path adds it, if whoever has its role already is the same. -/
theorem has_register (same : ∀ o', server.object? t path o.role = some o' → o' = o) :
    server.Has (server.register path o t).2 x ↔
      server.Has t x ∨ server.isPath path = true ∧ x = (path, o) := by
  cases valid : server.isPath path with
  | false =>
    rw [(lawful.register_refused t o valid).2.has_iff]
    simp
  | true =>
    rw [and_iff_right rfl]
    cases there : server.object? t path o.role with
    | some o' =>
      obtain rfl := same o' there
      rw [(lawful.register_taken there).has_iff]
      refine (or_iff_left_of_imp ?_).symm
      rintro rfl
      exact there
    | none =>
      rw [Has, lawful.register_free x.1 x.2.role valid there]
      split
      next key =>
        have absent : ¬server.Has t x := by
          rw [Has, key.1, key.2, there]
          exact (Option.some_ne_none _).symm
        rw [or_iff_right absent, Option.some.injEq, Prod.ext_iff, and_iff_right key.1, eq_comm]
      next other =>
        refine (or_iff_left ?_).symm
        rintro rfl
        exact other ⟨rfl, rfl⟩

/-- Withdrawing an object takes nothing else away, if nothing is below it. -/
theorem has_withdraw (clear : ∀ y, server.Has t y → ¬IsBelow path y.1) :
    server.Has (server.withdraw path role t).2 x ↔
      server.Has t x ∧ ¬(x.1 = path ∧ x.2.role = role) := by
  constructor
  · intro left
    have before := lawful.withdraw_adds left
    refine ⟨before, ?_⟩
    rintro ⟨rfl, rfl⟩
    rw [Has, (lawful.withdraw_present before).2] at left
    cases left
  · rintro ⟨before, other⟩
    have apart : (x.1, x.2.role) ≠ (path, role) := fun key => other (Prod.ext_iff.1 key)
    exact (lawful.withdraw_leaves (clear x before) apart).trans before

end Lawful

end Server

/-! ### Slashes -/

/-- How many slashes there are in a path. -/
def slashes (path : String) : Nat :=
  path.toList.count '/'

variable {path child device ssid : String} {part : List Char} {security : Security}

theorem slashes_child (same : child.toList = path.toList ++ '/' :: part) :
    slashes child = slashes path + 1 + part.count '/' := by
  rw [slashes, same, List.count_append, List.count_cons_self, slashes]
  omega

theorem slashes_networkPath (device ssid : String) (security : Security) :
    slashes (networkPath device ssid security) = slashes device + 1 := by
  rw [slashes_child (toList_networkPath ..),
    List.count_eq_zero.2 (slash_not_mem_networkPart ssid security)]

theorem ne_root_of_child (same : child.toList = path.toList ++ '/' :: part) (more : part ≠ []) :
    child ≠ "" ∧ child ≠ "/" := by
  have length := congrArg List.length same
  have positive := List.length_pos_iff.2 more
  rw [List.length_append, List.length_cons] at length
  constructor
  · rintro rfl
    simp at length
  · rintro rfl
    simp at length
    omega

theorem networkPath_ne_root : networkPath device ssid security ≠ "/" :=
  (ne_root_of_child (toList_networkPath ..) (by simp [networkPart])).2

/-- What is below a path other than the root has more slashes. -/
theorem IsBelow.slashes_lt (below : IsBelow path child) (root : path ≠ "/") :
    slashes path < slashes child := by
  rcases below with rfl | ⟨rest, same⟩
  · exact absurd rfl root
  · rw [slashes_child same]
    omega

/-- A network is below no interface but its own. -/
theorem IsBelow.eq_device (below : IsBelow path (networkPath device ssid security))
    (root : path ≠ "/") (level : slashes path = slashes device) : path = device := by
  rcases below with rfl | ⟨rest, same⟩
  · exact absurd rfl root
  · have count := slashes_child same
    rw [slashes_networkPath] at count
    have plain : '/' ∉ rest := List.count_eq_zero.1 (by omega)
    rw [toList_networkPath] at same
    have devices := (append_slash_inj (slash_not_mem_networkPart ssid security) plain).1 same
    exact String.toList_inj.1 devices.1.symm

theorem isPart_networkPart (ssid : String) (security : Security) :
    isPart (networkPart ssid security) = true := by
  have digits : ∀ c ∈ (utf8 ssid).hexChars, c.isAlphanum = true := by
    intro c there
    obtain ⟨b, _, digit⟩ := List.mem_flatMap.1 there
    have alphanumeric : ∀ n : Fin 16, (Nat.digitChar n.val).isAlphanum = true := by decide
    rw [Bytes.digits, List.mem_pair] at digit
    rcases digit with rfl | rfl
    · have bound : b.toNat / 16 < 16 := by
        have := b.toNat_lt
        omega
      exact alphanumeric ⟨_, bound⟩
    · exact alphanumeric ⟨_, Nat.mod_lt _ (by decide)⟩
  have tag : security.tag.toList.all Char.isAlphanum = true := by cases security <;> decide +kernel
  simp only [isPart, networkPart, Bool.and_eq_true, List.all_append, List.all_cons,
    List.all_eq_true, Bool.or_eq_true, beq_iff_eq]
  refine ⟨by simp, fun c hc => .inl (digits c hc), .inr trivial, fun c hc => .inl ?_⟩
  exact List.all_eq_true.1 tag c hc

end Bus

/-! ### What stations show -/

open Bus

/-- How many slashes there are in the paths of interfaces. -/
def Config.depth (c : Config) : Nat :=
  slashes c.trimmedRoot + 2

namespace Station

/-- The paths of the networks. -/
def known (s : Station) : Finset String :=
  s.view.paths.toFinset

variable {config : Config} {s t : Station} {known known' : Finset String} {x y : String × Object}

namespace Named

theorem slashes_path (named : s.Named config) : slashes s.path = config.depth := by
  obtain ⟨phy, path⟩ := named.path_eq
  have adapter : (config.adapterPath phy).toList =
      config.trimmedRoot.toList ++ '/' :: Nat.toDigits 10 phy := toList_devicePath ..
  have plain (n : Nat) : (Nat.toDigits 10 n).count '/' = 0 :=
    List.count_eq_zero.2 (slash_not_mem_toDigits n)
  rw [path, slashes_child (toList_devicePath ..), slashes_child adapter, plain, plain]
  rfl

theorem path_ne (named : s.Named config) : s.path ≠ "" ∧ s.path ≠ "/" := by
  obtain ⟨phy, path⟩ := named.path_eq
  rw [path]
  exact ne_root_of_child (toList_devicePath ..) Nat.toDigits_ne_nil

/-- The networks of a station have paths of objects if it has one itself. -/
theorem isPath_network {σ : Type} {server : Server σ} (named : s.Named config)
    (lawful : server.Lawful) (ssid : String) (security : Security) :
    server.isPath (networkPath s.path ssid security) = server.isPath s.path :=
  lawful.isPath_child named.path_ne.1 named.path_ne.2 (isPart_networkPart ssid security)
    (toList_networkPath ..)

end Named

/-- The objects of a station with their paths, if its networks have these paths. -/
def Shows (s : Station) (known : Finset String) (x : String × Object) : Prop :=
  (x.1 = s.path ∧ (x.2 = .device s.index ∨ x.2 = .enrollment s.index)) ∨
    x.1 ∈ known ∧ x.2 = .network s.index x.1

/-- Whether paths are those of networks that a station can have. -/
def Owns (s : Station) (known : Finset String) : Prop :=
  ∀ path ∈ known, ∃ ssid security, path = networkPath s.path ssid security

namespace Shows

/-- Every object of a station is at its path or right below it. -/
theorem spot (own : s.Owns known) (h : s.Shows known x) :
    x.1 = s.path ∧ x.2.role ≠ .network ∨
      (∃ ssid security, x.1 = networkPath s.path ssid security) ∧ x.2.role = .network := by
  rcases h with ⟨path, object⟩ | ⟨listed, object⟩
  · refine .inl ⟨path, ?_⟩
    rcases object with object | object <;> rw [object] <;> exact Role.noConfusion
  · refine .inr ⟨own x.1 listed, ?_⟩
    rw [object]
    rfl

theorem slashes_le (named : s.Named config) (own : s.Owns known) (h : s.Shows known x) :
    slashes x.1 ≤ config.depth + 1 := by
  rcases h.spot own with ⟨path, _⟩ | ⟨⟨ssid, security, path⟩, _⟩
  · rw [path, named.slashes_path]
    omega
  · rw [path, slashes_networkPath, named.slashes_path]

/-- Objects that have a path and a role in common are of one station. -/
theorem path_eq (own : s.Owns known) (own' : t.Owns known') (h : s.Shows known x)
    (h' : t.Shows known' y) (path : x.1 = y.1) (role : x.2.role = y.2.role) : s.path = t.path := by
  rcases h.spot own with ⟨here, plain⟩ | ⟨⟨ssid, security, here⟩, network⟩
  · rcases h'.spot own' with ⟨here', _⟩ | ⟨_, network'⟩
    · rw [← here, ← here', path]
    · exact absurd (role.trans network') plain
  · rcases h'.spot own' with ⟨_, plain'⟩ | ⟨⟨ssid', security', here'⟩, _⟩
    · exact absurd (role.symm.trans network) plain'
    · rw [here, here'] at path
      exact device_of_networkPath path

/-- No two objects have a path and a role in common. -/
theorem eq (hs : s.Named config) (ht : t.Named config) (own : s.Owns known) (own' : t.Owns known')
    (h : s.Shows known x) (h' : t.Shows known' y) (path : x.1 = y.1)
    (role : x.2.role = y.2.role) : x = y := by
  have same : s.index = t.index := hs.index_eq ht (path_eq own own' h h' path role)
  refine Prod.ext path ?_
  rcases h with ⟨_, object | object⟩ | ⟨_, object⟩ <;>
    rcases h' with ⟨_, object' | object'⟩ | ⟨_, object'⟩ <;>
    rw [object, object'] at role ⊢ <;> cases role
  · rw [same]
  · rw [same]
  · rw [same, path]

end Shows

/-- One more network. -/
theorem shows_insert {path : String} :
    s.Shows (insert path known) x ↔ s.Shows known x ∨ x = (path, .network s.index path) := by
  rw [Shows, Shows, Finset.mem_insert, or_and_right, or_assoc, or_comm (a := x.1 = path ∧ _)]
  refine or_congr_right (or_congr_right ?_)
  rw [Prod.ext_iff]
  exact and_congr_right fun here => by rw [here]

/-- One network less. -/
theorem shows_erase {path : String} :
    s.Shows (known.erase path) x ↔
      s.Shows known x ∧ ¬(x.1 = path ∧ x.2.role = .network) := by
  constructor
  · rintro (⟨here, object⟩ | ⟨listed, object⟩)
    · refine ⟨.inl ⟨here, object⟩, fun gone => ?_⟩
      rcases object with object | object <;> rw [object] at gone <;> cases gone.2
    · obtain ⟨apart, listed⟩ := Finset.mem_erase.1 listed
      exact ⟨.inr ⟨listed, object⟩, fun gone => apart gone.1⟩
  · rintro ⟨device | ⟨listed, object⟩, left⟩
    · exact .inl device
    · refine .inr ⟨Finset.mem_erase.2 ⟨fun here => left ⟨here, ?_⟩, listed⟩, object⟩
      rw [object]
      rfl

theorem Owns.erase (h : s.Owns known) (path : String) : s.Owns (known.erase path) :=
  fun other listed => h other (Finset.mem_of_mem_erase listed)

theorem Owns.insert {path : String} (h : s.Owns known)
    (named : ∃ ssid security, path = networkPath s.path ssid security) :
    s.Owns (insert path known) := by
  intro other listed
  rcases Finset.mem_insert.1 listed with rfl | listed
  · exact named
  · exact h other listed

/-- An object that some station with a name under the root can have, at its path. -/
def Shown (config : Config) (x : String × Object) : Prop :=
  ∃ s known, Named config s ∧ s.Owns known ∧ s.Shows known x

namespace Shown

theorem eq (h : Shown config x) (h' : Shown config y) (path : x.1 = y.1)
    (role : x.2.role = y.2.role) : x = y := by
  obtain ⟨s, known, hs, own, h⟩ := h
  obtain ⟨t, known', ht, own', h'⟩ := h'
  exact h.eq hs ht own own' h' path role

/-- Whoever has the role of an object already is the same. -/
theorem object_eq {σ : Type} {server : Server σ} (lawful : server.Lawful) {contents : σ}
    {path : String} {o o' : Object} (h : Shown config (path, o))
    (all : ∀ x, server.Has contents x → Shown config x)
    (there : server.object? contents path o.role = some o') : o' = o := by
  obtain ⟨has, role⟩ := lawful.object?_eq_some_iff.1 there
  exact congrArg Prod.snd ((all _ has).eq h rfl role)

/-- Nothing is below a network. -/
theorem not_below_network (h : Shown config x) (named : s.Named config) (ssid : String)
    (security : Security) : ¬IsBelow (networkPath s.path ssid security) x.1 := by
  intro below
  obtain ⟨t, known, ht, own, h⟩ := h
  have deeper := below.slashes_lt networkPath_ne_root
  have level := h.slashes_le ht own
  rw [slashes_networkPath, named.slashes_path] at deeper
  omega

end Shown

/-- An object that a station with another path can have. -/
def Elsewhere (config : Config) (s : Station) (x : String × Object) : Prop :=
  ∃ u known, Named config u ∧ u.Owns known ∧ u.Shows known x ∧ u.path ≠ s.path

namespace Elsewhere

theorem shown (h : Elsewhere config s x) : Shown config x := by
  obtain ⟨u, known, named, owns, shows, _⟩ := h
  exact ⟨u, known, named, owns, shows⟩

/-- It is not an object of the station itself. -/
theorem not_same (h : Elsewhere config s y) (own : s.Owns known) (shows : s.Shows known x) :
    ¬(y.1 = x.1 ∧ y.2.role = x.2.role) := by
  rintro ⟨path, role⟩
  obtain ⟨u, _, _, own', shows', apart⟩ := h
  exact apart (shows'.path_eq own' own shows path role)

/-- It is not below the station itself. -/
theorem not_below (h : Elsewhere config s y) (named : s.Named config) :
    ¬IsBelow s.path y.1 := by
  intro below
  obtain ⟨u, _, named', own', shows', apart⟩ := h
  have level : slashes s.path = slashes u.path := named.slashes_path.trans named'.slashes_path.symm
  rcases shows'.spot own' with ⟨here, _⟩ | ⟨⟨ssid, security, here⟩, _⟩
  · have deeper := below.slashes_lt named.path_ne.2
    rw [here, level] at deeper
    exact absurd deeper (lt_irrefl _)
  · rw [here] at below
    exact apart (below.eq_device named.path_ne.2 level).symm

end Elsewhere

/-! ### What the pump makes of it -/

/-- The paths of the networks that there are, once the pump has followed an event. -/
def Event.keep (known : Finset String) : Event → Finset String
  | .networkAdded path => insert path known
  | .networkRemoved path _ => known.erase path
  | _ => known

/-- Whether the networks that an event says come or go are named after a device. -/
def Event.IsOf (device : String) : Event → Prop
  | .networkAdded path | .networkRemoved path _ =>
    ∃ ssid security, path = networkPath device ssid security
  | _ => True

variable {σ : Type} {server : Server σ} (lawful : server.Lawful) {contents : σ}

/-- There are the objects of a station, if its path is one and its networks have these paths, beside
others that are of other stations. -/
structure Kept (server : Server σ) (config : Config) (s : Station)
    (others : String × Object → Prop) (known : Finset String) (contents : σ) : Prop where
  named : s.Named config
  own : s.Owns known
  apart : ∀ x, others x → Elsewhere config s x
  has_iff : ∀ x, server.Has contents x ↔
    others x ∨ server.isPath s.path = true ∧ s.Shows known x

namespace Kept

variable {others : String × Object → Prop}

theorem shown (h : Kept server config s others known contents) (there : server.Has contents x) :
    Shown config x := by
  rcases (h.has_iff x).1 there with other | ⟨_, own⟩
  · exact (h.apart x other).shown
  · exact ⟨s, known, h.named, h.own, own⟩

include lawful in
theorem follow (h : Kept server config s others known contents) (m : Manager) {e : Event}
    (own : e.IsOf s.path) :
    Kept server config s others (e.keep known)
      (server.follow m s.index s.path e contents).1 := by
  cases e with
  | networkAdded path =>
    have owns := h.own.insert own
    have new : Shown config (path, .network s.index path) :=
      ⟨s, insert path known, h.named, owns, shows_insert.2 (.inr rfl)⟩
    refine ⟨h.named, owns, h.apart, fun x => ?_⟩
    refine (lawful.has_register fun o' => new.object_eq lawful fun _ => h.shown).trans ?_
    obtain ⟨ssid, security, rfl⟩ := own
    rw [h.has_iff, h.named.isPath_network lawful, Event.keep, shows_insert, and_or_left, or_assoc]
  | networkRemoved path reason =>
    obtain ⟨ssid, security, rfl⟩ := own
    let path := networkPath s.path ssid security
    have only : s.Owns {path} := by
      intro other listed
      exact ⟨ssid, security, Finset.mem_singleton.1 listed⟩
    have shows : s.Shows {path} (path, .network s.index path) :=
      .inr ⟨Finset.mem_singleton_self path, rfl⟩
    refine ⟨h.named, h.own.erase path, h.apart, fun x => ?_⟩
    have apart (other : others x) : ¬(x.1 = path ∧ x.2.role = .network) :=
      (h.apart x other).not_same only shows
    have taken : server.Has (server.withdraw path .network contents).2 x ↔
        server.Has contents x ∧ ¬(x.1 = path ∧ x.2.role = .network) :=
      lawful.has_withdraw fun y there => (h.shown there).not_below_network h.named ssid security
    refine taken.trans ?_
    rw [h.has_iff, Event.keep, shows_erase, or_and_right, and_iff_left_of_imp apart, and_assoc]
  | propertyChanged _ | networkConnectedChanged _ | stateChanged _ _ | registrarFound _ => exact h

end Kept

/-! ### Stations that are attached and released -/

/-- The networks of a station are its own. -/
theorem Named.owns (named : s.Named config) : s.Owns s.known := by
  intro path listed
  obtain ⟨n, there, rfl⟩ := List.mem_map.1 (List.mem_toFinset.1 listed)
  exact ⟨n.ssid, n.security, named.network_path_eq there⟩

theorem mem_known_iff {path : String} :
    path ∈ s.known ↔ ∃ n ∈ s.orderedNetworks, n.path = path := by
  simp [known, view, orderedNetworks, Catalogue.ranked, Network.summary]

/-- What a station shows of its own networks. -/
theorem Named.shown (named : s.Named config) (shows : s.Shows s.known x) : Shown config x :=
  ⟨s, s.known, named, named.owns, shows⟩

/-- The objects that are registered for a station are those that it shows. -/
theorem mem_objectsOf_iff : x ∈ objectsOf s ↔ s.Shows s.known x := by
  rw [objectsOf, List.mem_append, List.mem_pair, Shows]
  refine or_congr ?_ ?_
  · rw [Prod.ext_iff, Prod.ext_iff, and_or_left]
  · rw [List.mem_map, mem_known_iff]
    constructor
    · rintro ⟨n, heard, rfl⟩
      exact ⟨⟨n, heard, rfl⟩, rfl⟩
    · rintro ⟨⟨n, heard, path⟩, object⟩
      refine ⟨n, heard, Prod.ext path ?_⟩
      rw [object, path]

include lawful

theorem isPath_of_mem_objectsOf (named : s.Named config) (valid : server.isPath s.path = true)
    (listed : x ∈ objectsOf s) : server.isPath x.1 = true := by
  rcases (mem_objectsOf_iff.1 listed).spot named.owns with ⟨path, _⟩ | ⟨⟨ssid, security, path⟩, _⟩
  · rw [path, valid]
  · rw [path, named.isPath_network lawful, valid]

/-- Registering objects of stations at paths succeeds and adds them. -/
theorem registerAll_accepted {l : List (String × Object)}
    (all : ∀ x, server.Has contents x → Shown config x) (new : ∀ y ∈ l, Shown config y)
    (valid : ∀ y ∈ l, server.isPath y.1 = true) :
    (server.registerAll l contents).1 = .ok () ∧
      ∀ x, server.Has (server.registerAll l contents).2 x ↔ server.Has contents x ∨ x ∈ l := by
  induction l generalizing contents with
  | nil => exact ⟨rfl, fun x => by simp [Server.registerAll]⟩
  | cons y rest ih =>
    obtain ⟨path, o⟩ := y
    obtain ⟨first, others⟩ := List.forall_mem_cons.1 new
    obtain ⟨placed, valid⟩ := List.forall_mem_cons.1 valid
    have accepted := lawful.register_accepted contents o placed
    have added (x : String × Object) :=
      lawful.has_register (x := x) fun o' => first.object_eq lawful all
    rw [Server.registerAll]
    generalize server.register path o contents = outcome at accepted added
    obtain ⟨result, next⟩ := outcome
    obtain rfl : result = .ok () := accepted
    have shown : ∀ x, server.Has next x → Shown config x := by
      intro x there
      rcases (added x).1 there with before | ⟨_, rfl⟩
      · exact all x before
      · exact first
    obtain ⟨done, mem⟩ := ih shown others valid
    refine ⟨done, fun x => ?_⟩
    rw [mem, added, and_iff_right placed, List.mem_cons, or_assoc]

/-- If the first path is none, nothing comes of it. -/
theorem registerAll_refused {y : String × Object} {l : List (String × Object)}
    (invalid : server.isPath y.1 = false) (contents : σ) :
    (∃ text, (server.registerAll (y :: l) contents).1 = .error text) ∧
      server.Same contents (server.registerAll (y :: l) contents).2 := by
  obtain ⟨path, o⟩ := y
  obtain ⟨⟨text, failed⟩, same⟩ := lawful.register_refused contents o invalid
  rw [Server.registerAll]
  generalize server.register path o contents = outcome at failed same
  obtain ⟨result, next⟩ := outcome
  obtain rfl : result = .error text := failed
  exact ⟨⟨text, rfl⟩, same⟩

section withdrawDevice

variable {others : String × Object → Prop} {there : Prop} (named : s.Named config)
  (apart : ∀ x, others x → Elsewhere config s x)
  (has_iff : ∀ x, server.Has contents x ↔ others x ∨ there ∧ s.Shows ∅ x)

omit lawful in
include named apart has_iff in
/-- Nothing is below a station that has no networks. -/
theorem not_below_device (has : server.Has contents x) : ¬IsBelow s.path x.1 := by
  rcases (has_iff x).1 has with other | ⟨_, ⟨here, _⟩ | ⟨listed, _⟩⟩
  · exact (apart x other).not_below named
  · rw [here]
    exact fun below => absurd (below.slashes_lt named.path_ne.2) (lt_irrefl _)
  · exact absurd listed (Finset.notMem_empty _)

omit lawful in
include apart in
/-- What is left of a station without networks once its device and its enrollment are gone. -/
theorem others_iff :
    (others x ∨ there ∧ s.Shows ∅ x) ∧ ¬(x.1 = s.path ∧ x.2.role = .enrollment) ∧
      ¬(x.1 = s.path ∧ x.2.role = .device) ↔ others x := by
  have none : s.Owns ∅ := fun _ listed => absurd listed (Finset.notMem_empty _)
  constructor
  · rintro ⟨other | ⟨_, ⟨path, object | object⟩ | ⟨listed, _⟩⟩, enrolled, device⟩
    · exact other
    · exact absurd ⟨path, by rw [object]; rfl⟩ device
    · exact absurd ⟨path, by rw [object]; rfl⟩ enrolled
    · exact absurd listed (Finset.notMem_empty _)
  · intro other
    have enrollment : s.Shows ∅ (s.path, .enrollment s.index) := .inl ⟨rfl, .inr rfl⟩
    have device : s.Shows ∅ (s.path, .device s.index) := .inl ⟨rfl, .inl rfl⟩
    exact ⟨.inl other, (apart x other).not_same none enrollment,
      (apart x other).not_same none device⟩

include named apart has_iff in
/-- Withdrawing the device of a station without networks leaves the objects of the others, whether
the station is shown or not. -/
theorem has_withdrawDevice :
    server.Has (withdrawDevice server s.path contents).2 x ↔ others x := by
  have clear (y : String × Object) (has : server.Has contents y) : ¬IsBelow s.path y.1 :=
    not_below_device named apart has_iff has
  have enrolled (y : String × Object) :
      server.Has (server.withdraw s.path .enrollment contents).2 y ↔
        server.Has contents y ∧ ¬(y.1 = s.path ∧ y.2.role = .enrollment) :=
    lawful.has_withdraw clear
  unfold withdrawDevice
  cases first : server.withdraw s.path .enrollment contents with
  | mk outcome next =>
    rw [first] at enrolled
    cases outcome with
    | ok _ =>
      have left : server.Has (server.withdraw s.path .device next).2 x ↔
          server.Has next x ∧ ¬(x.1 = s.path ∧ x.2.role = .device) :=
        lawful.has_withdraw fun y after => clear y ((enrolled y).1 after).1
      refine left.trans ?_
      rw [enrolled, has_iff, and_assoc]
      exact others_iff apart
    | error text =>
      -- The enrollment was not there, and so the device was not either.
      have absent : ¬there := by
        intro shown
        have before : server.Has contents (s.path, .enrollment s.index) :=
          (has_iff _).2 (.inr ⟨shown, .inl ⟨rfl, .inr rfl⟩⟩)
        have done : (server.withdraw s.path .enrollment contents).1 = .ok () :=
          (lawful.withdraw_present before).1
        rw [first] at done
        cases done
      have left : ¬(there ∧ s.Shows ∅ x) := fun shown => absent shown.1
      refine (enrolled x).trans ?_
      rw [has_iff, or_iff_left left]
      refine and_iff_left_of_imp fun other => ?_
      have enrollment : s.Shows ∅ (s.path, .enrollment s.index) := .inl ⟨rfl, .inr rfl⟩
      exact (apart x other).not_same (fun _ none => absurd none (Finset.notMem_empty _)) enrollment

end withdrawDevice

end Station

end WirelessStation
