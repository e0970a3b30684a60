import WirelessStation.Bus.Service
import WirelessStation.Proofs.Showing

/-! # Clients of the bus

A client reads every property of an object when it appears (`Client.look`).  Afterwards it only
applies the signals that it hears (`Client.hear`), and it forgets an object that is gone.  Signals
carry the values of the moment at which they are sent, and they are sent later than the changes
that they tell of.

What a client holds of the properties whose changes are signalled is therefore current except where
something is still to be signalled (`Faithful`).  A signal makes it current there (`Faithful.hear`),
objects that come and go leave it so (`Faithful.look`), and once the pump has followed everything
that it was told, nothing is left to be signalled (`Kept.pumped`). -/

namespace WirelessStation

namespace Bus

/-! ### What the pump is told -/

/-- An event as the pump gets it: with the index of the interface and the path of its device. -/
structure Forwarded where
  index : Nat
  device : String
  event : Station.Event
deriving DecidableEq

def Forwarded.ofNotice? : Manager.Notice → Option Forwarded
  | .told index (.pump device) event => some ⟨index, device, event⟩
  | _ => none

/-- What the pump is told in a log, in order. -/
def forwarded (log : List Manager.Notice) : List Forwarded :=
  log.filterMap Forwarded.ofNotice?

/-- The path, the role and the property that a signal is sent for. -/
def Forwarded.renews (f : Forwarded) : Option (String × Role × String) :=
  match f.event with
  | .propertyChanged property => some (f.device, .device, property.label)
  | .networkConnectedChanged path => some (path, .network, "Connected")
  | _ => none

namespace Server

variable {σ : Type} (server : Server σ)

/-- What there is once the pump has followed some events. -/
def pumped (m : Manager) (events : List Forwarded) (t : σ) : σ :=
  events.foldl (fun t f => (server.follow m f.index f.device f.event t).1) t

theorem drain_fst (m : Manager) (log : List Manager.Notice) (t : σ) :
    (server.drain m log t).1 = server.pumped m (forwarded log) t := by
  induction log generalizing t with
  | nil => rfl
  | cons notice log ih =>
    cases notice with
    | told index watcher event =>
      cases watcher with
      | client label => exact ih t
      | pump device => exact ih (server.follow m index device event t).1
    | did _ _ => exact ih t
    | device _ _ => exact ih t

/-- The signals that are sent for an event are those for what it renews. -/
theorem follow_snd (m : Manager) (f : Forwarded) (t : σ) :
    (server.follow m f.index f.device f.event t).2 =
      match f.renews with
      | some (path, role, property) => server.signals m t path role property
      | none => [] := by
  obtain ⟨index, device, event⟩ := f
  cases event <;> rfl

end Server

/-! ### What is read -/

/-- The properties of the objects in a role whose changes are signalled. -/
def Role.Signals : Role → String → Prop
  | device, property => ∃ p : Station.Property, property = p.label
  | enrollment, _ => False
  | network, property => property = "Connected"

end Bus

/-- The value of a property as clients of the bus read it. -/
def Station.Property.value (s : Station) : Station.Property → Bus.Value
  | name => .text s.name
  | connectedNetwork => .text (s.connectedNetwork.getD "/")
  | powered => .flag s.isPowered
  | scanning => .flag s.scanning
  | state => .text s.state.busText

namespace Bus

namespace Object

variable {m m' : Manager} {s : Station} {index : Nat}

/-- A read goes to the station of the object and to no other one. -/
theorem read_congr {o : Object} (same : m'.station? o.index = m.station? o.index)
    (property : String) : o.read m' property = o.read m property := by
  have properties : o.properties m' = o.properties m := by
    cases o with
    | enrollment _ => rfl
    | device _ => exact congrArg deviceProperties same
    | network _ path => exact congrArg (networkProperties · path) same
  rw [read, properties, read]

theorem read_device (found : m.station? index = some s) (p : Station.Property) :
    (device index).read m p.label = .ok (p.value s) := by
  rw [read, properties, found]
  cases p <;> rfl

theorem read_connected (m : Manager) (index : Nat) (path : String) :
    (network index path).read m "Connected" =
      .ok (.flag ((m.station? index).bind Station.connectedNetwork == some path)) := rfl

/-- What is signalled of an object can be read as long as its interface is managed. -/
theorem read_isOk {o : Object} {property : String} (managed : (m.station? o.index).isSome = true)
    (signalled : o.role.Signals property) : ∃ v, o.read m property = .ok v := by
  obtain ⟨s, found⟩ := Option.isSome_iff_exists.1 managed
  cases o with
  | device index =>
    obtain ⟨p, rfl⟩ := signalled
    exact ⟨_, read_device found p⟩
  | enrollment index => exact signalled.elim
  | network index path =>
    obtain rfl := signalled
    exact ⟨_, read_connected m index path⟩

end Object

/-! ### Clients -/

variable {σ : Type}

/-- What a client holds: for each object that it knows, by path and role, the values of its
properties. -/
def Client : Type :=
  String → Role → Option (String → Option Value)

namespace Client

/-- A client that knows no object. -/
def new : Client :=
  fun _ _ => none

/-- The value that a client holds of a property. -/
def held (c : Client) (path : String) (role : Role) (property : String) : Option Value :=
  (c path role).bind fun values => values property

/-- Reads every property of the objects that have appeared, and forgets those that are gone. -/
def look (server : Server σ) (m : Manager) (t : σ) (c : Client) : Client :=
  fun path role => (server.object? t path role).map fun o =>
    (c path role).getD fun property => (o.read m property).toOption

/-- Applies a signal. -/
def hear (c : Client) (s : Signal) : Client :=
  fun path role =>
    if path = s.path ∧ role = s.role then
      (c path role).map fun values => Function.update values s.property (some s.value)
    else c path role

/-- Follows what the pump does: applies the signals and looks for objects after each event. -/
def attend (server : Server σ) (m : Manager) : List Forwarded → σ → Client → Client
  | [], _, c => c
  | f :: rest, t, c =>
    let (t', sent) := server.follow m f.index f.device f.event t
    attend server m rest t' ((sent.foldl hear c).look server m t')

variable (c : Client) (s : Signal)

theorem isSome_hear (path : String) (role : Role) :
    (c.hear s path role).isSome = (c path role).isSome := by
  unfold hear
  split
  · exact Option.isSome_map
  · rfl

/-- A signal tells the value of its property. -/
theorem held_hear_self (knows : (c s.path s.role).isSome = true) :
    (c.hear s).held s.path s.role s.property = some s.value := by
  obtain ⟨values, held⟩ := Option.isSome_iff_exists.1 knows
  rw [Client.held, hear, if_pos ⟨rfl, rfl⟩, held, Option.map_some, Option.bind_some,
    Function.update_self]

/-- It says nothing about other properties. -/
theorem held_hear_of_ne {path property : String} {role : Role}
    (other : (path, role, property) ≠ (s.path, s.role, s.property)) :
    (c.hear s).held path role property = c.held path role property := by
  rw [Client.held, Client.held, hear]
  split
  next here =>
    obtain ⟨rfl, rfl⟩ := here
    have apart : property ≠ s.property := by
      rintro rfl
      exact other rfl
    cases c s.path s.role with
    | none => rfl
    | some values => exact Function.update_of_ne apart ..
  next => rfl

end Client

/-- A client knows the objects that there are.  It holds what is read of the properties of managed
interfaces whose changes are signalled, but for those that are still to be signalled. -/
structure Faithful (server : Server σ) (m : Manager) (t : σ)
    (due : String → Role → String → Prop) (c : Client) : Prop where
  known : ∀ path role, (c path role).isSome = (server.object? t path role).isSome
  current : ∀ path role o property, server.object? t path role = some o →
    (m.station? o.index).isSome = true → role.Signals property → ¬due path role property →
    c.held path role property = (o.read m property).toOption

/-- What is still to be signalled, but for one property. -/
def Remaining (due : String → Role → String → Prop) (path : String) (role : Role)
    (property : String) : String → Role → String → Prop :=
  fun path' role' property' =>
    due path' role' property' ∧ (path', role', property') ≠ (path, role, property)

namespace Faithful

variable {server : Server σ} {m : Manager} {t t' : σ} {due due' : String → Role → String → Prop}
  {c : Client}

theorem mono (h : Faithful server m t due c)
    (le : ∀ path role property, due path role property → due' path role property) :
    Faithful server m t due' c where
  known := h.known
  current path role o property there managed signalled settled :=
    h.current path role o property there managed signalled fun owed =>
      settled (le path role property owed)

/-- What nobody can read need not be signalled. -/
theorem unread (h : Faithful server m t due c) {path property : String} {role : Role}
    (none : ∀ o, server.object? t path role = some o → (m.station? o.index).isSome = true →
      ¬role.Signals property) :
    Faithful server m t (Remaining due path role property) c := by
  refine ⟨h.known, fun path' role' o property' there managed signalled settled => ?_⟩
  refine h.current path' role' o property' there managed signalled fun owed => ?_
  refine settled ⟨owed, fun same => ?_⟩
  cases same
  exact none o there managed signalled

/-- Once a property has been signalled, it is no longer due. -/
theorem hear (lawful : server.Lawful) (h : Faithful server m t due c) (path : String) (role : Role)
    (property : String) :
    Faithful server m t (Remaining due path role property)
      ((server.signals m t path role property).foldl Client.hear c) := by
  cases there : server.object? t path role with
  | none =>
    rw [lawful.signals_of_none there]
    refine h.unread fun o there' => ?_
    cases there.symm.trans there'
  | some o =>
    cases read : o.read m property with
    | error failure =>
      rw [lawful.signals_of_error there read]
      refine h.unread fun o' there' managed signalled => ?_
      obtain rfl : o = o' := Option.some.inj (there.symm.trans there')
      obtain rfl := lawful.role_eq there
      obtain ⟨value, fine⟩ := Object.read_isOk managed signalled
      cases read.symm.trans fine
    | ok value =>
      rw [lawful.signals_of_ok there read, List.foldl_cons, List.foldl_nil]
      refine ⟨fun path' role' => ?_, fun path' role' o' property' there' managed signalled => ?_⟩
      · rw [Client.isSome_hear, h.known]
      · intro settled
        by_cases here : (path', role', property') = (path, role, property)
        · cases here
          obtain rfl : o = o' := Option.some.inj (there.symm.trans there')
          have knows : (c path role).isSome = true := by rw [h.known, there]; rfl
          rw [read]
          exact c.held_hear_self ⟨path, role, property, value⟩ knows
        · rw [c.held_hear_of_ne _ here]
          exact h.current path' role' o' property' there' managed signalled fun owed =>
            settled ⟨owed, here⟩

/-- Objects may come and go, if no object takes the place of another one. -/
theorem look (h : Faithful server m t due c)
    (stays : ∀ path role o o', server.object? t path role = some o →
      server.object? t' path role = some o' → o = o') :
    Faithful server m t' due (c.look server m t') := by
  constructor
  · intro path role
    exact Option.isSome_map
  · intro path role o property there managed signalled settled
    rw [Client.held, Client.look, there, Option.map_some, Option.bind_some]
    cases held : c path role with
    | none => rfl
    | some values =>
      have before : (server.object? t path role).isSome = true := by rw [← h.known, held]; rfl
      obtain ⟨o', there'⟩ := Option.isSome_iff_exists.1 before
      obtain rfl := stays path role o' o there' there
      have current := h.current path role o' property there' managed signalled settled
      rwa [Client.held, held] at current

theorem look_same (h : Faithful server m t due c) (same : server.Same t t') :
    Faithful server m t' due (c.look server m t') :=
  h.look fun path role _ _ old new =>
    Option.some.inj (old.symm.trans ((same path role).symm.trans new))

end Faithful

/-- What is still to be signalled once the pump has been told of some events. -/
def Due (events : List Forwarded) (path : String) (role : Role) (property : String) : Prop :=
  ∃ f ∈ events, f.renews = some (path, role, property)

theorem Faithful.follow {server : Server σ} (lawful : server.Lawful) {m : Manager} {t : σ}
    {c : Client} {f : Forwarded} {rest : List Forwarded}
    (h : Faithful server m t (Due (f :: rest)) c) :
    Faithful server m t (Due rest)
      ((server.follow m f.index f.device f.event t).2.foldl Client.hear c) := by
  rw [Server.follow_snd]
  cases renewed : f.renews with
  | none =>
    refine h.mono fun path role property ⟨f', listed, renews⟩ => ?_
    rcases List.mem_cons.1 listed with rfl | listed
    · cases renewed.symm.trans renews
    · exact ⟨f', listed, renews⟩
  | some key =>
    obtain ⟨path, role, property⟩ := key
    refine (h.hear lawful path role property).mono fun path' role' property' ⟨owed, other⟩ => ?_
    obtain ⟨f', listed, renews⟩ := owed
    rcases List.mem_cons.1 listed with rfl | listed
    · exact absurd (Option.some.inj (renews.symm.trans renewed)) other
    · exact ⟨f', listed, renews⟩

end Bus

namespace Station

open Bus

/-- Events of a station, about networks that are named after it. -/
def Sends (s : Station) (events : List Forwarded) : Prop :=
  ∀ f ∈ events, f.index = s.index ∧ f.device = s.path ∧ f.event.IsOf s.path

section pumped

variable {σ : Type} {server : Server σ} (lawful : server.Lawful) {config : Config} {s : Station}
  {others : String × Object → Prop} {known : Finset String} {t t' : σ}

include lawful

/-- Objects of stations do not take each other's places. -/
theorem Shown.stays (all : ∀ x, server.Has t x → Shown config x)
    (all' : ∀ x, server.Has t' x → Shown config x) (path : String) (role : Role) (o o' : Object)
    (there : server.object? t path role = some o) (there' : server.object? t' path role = some o') :
    o = o' := by
  obtain ⟨has, rfl⟩ := lawful.object?_eq_some_iff.1 there'
  exact (all' _ has).object_eq lawful all there

/-- The pump follows the events of a station, and a client follows the pump. -/
theorem Kept.pumped (h : Kept server config s others known t) {m : Manager} {c : Client}
    {events : List Forwarded} (sent : s.Sends events)
    (faithful : Faithful server m t (Due events) c) :
    Kept server config s others (events.foldl (fun known f => f.event.keep known) known)
        (server.pumped m events t) ∧
      Faithful server m (server.pumped m events t) (Due []) (c.attend server m events t) := by
  induction events generalizing known t c with
  | nil => exact ⟨h, faithful⟩
  | cons f rest ih =>
    obtain ⟨index, device, own⟩ := sent f (List.mem_cons_self ..)
    have next : Kept server config s others (f.event.keep known)
        (server.follow m f.index f.device f.event t).1 := by
      rw [index, device]
      exact h.follow lawful m own
    have stays := Shown.stays lawful (fun _ => h.shown) fun _ => next.shown
    have looked := (faithful.follow lawful).look stays
    exact ih next (fun f' listed => sent f' (List.mem_cons_of_mem _ listed)) looked

end pumped

/-! ### What a pump hears of a course -/

namespace Event

variable {e : Event} {p : List String}

theorem keep_keep (e : Event) (known : Finset String) : e.keep (e.keep known) = e.keep known := by
  cases e with
  | networkAdded path => exact Finset.insert_idem path known
  | networkRemoved path _ => exact Finset.erase_idem
  | _ => rfl

/-- A pump keeps the networks that a watcher keeps who follows the events in a list. -/
theorem keep_toFinset (fits : e.Fits p) (distinct : p.Nodup) :
    (e.follow p).Nodup ∧ e.keep p.toFinset = (e.follow p).toFinset := by
  cases e with
  | networkAdded path =>
    refine ⟨List.nodup_append'.2 ⟨distinct, List.nodup_singleton path, ?_⟩, ?_⟩
    · exact List.disjoint_singleton.2 fits
    · ext other
      simp only [keep, follow, Finset.mem_insert, List.mem_toFinset, List.mem_append,
        List.mem_singleton]
      exact or_comm
  | networkRemoved path reason =>
    refine ⟨distinct.erase path, ?_⟩
    ext other
    simp [keep, follow, distinct.mem_erase_iff]
  | _ => exact ⟨distinct, rfl⟩

end Event

/-- It does not matter how often a pump is told of each event, as long as it is. -/
theorem Replay.foldl_keep {p p' : List String} {l : List Event} (h : Replay p l p')
    (distinct : p.Nodup) {pumps : List String} (watched : pumps ≠ []) (index : Nat) :
    (l.flatMap fun e => pumps.map fun d => (⟨index, d, e⟩ : Forwarded)).foldl
      (fun known f => f.event.keep known) p.toFinset = p'.toFinset := by
  induction h with
  | nil _ => rfl
  | @cons p _ e rest fits on ih =>
    obtain ⟨distinct, same⟩ := Event.keep_toFinset fits distinct
    have once (known : Finset String) : (pumps.map fun d => (⟨index, d, e⟩ : Forwarded)).foldl
        (fun known f => f.event.keep known) known = e.keep known := by
      obtain ⟨d, more, rfl⟩ := List.exists_cons_of_ne_nil watched
      rw [List.map_cons, List.foldl_cons]
      refine List.foldlRecOn (motive := (· = e.keep known)) _ _ rfl fun kept same f listed => ?_
      obtain ⟨_, _, rfl⟩ := List.mem_map.1 listed
      rw [same, Event.keep_keep]
    rw [List.flatMap_cons, List.foldl_append, once, same]
    exact ih distinct

end Station

end WirelessStation
