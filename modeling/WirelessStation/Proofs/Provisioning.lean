import WirelessStation.Proofs.Distrust
import WirelessStation.Store.Known

/-! # Credentials that were provisioned

An enrollment ends with credentials, which go to the store one after the other.  Of those for one
network the last one counts (`Enrollment.settings_foldl_call`).  Whether a network offers it on the
next attempt is another matter: a network whose stored secret failed goes on offering nothing, since
nobody tells it that another secret is stored now (`provisioned_offered_unless_rejected`). -/

namespace WirelessStation

namespace Enrollment

/-- Whether a credential is for the networks with an SSID and a security type. -/
def Credential.isFor (c : Credential) (ssid : String) (security : Security) : Bool :=
  c.ssid == ssid && c.settings.security == security

/-- What the store is told of a credential. -/
def Credential.call (c : Credential) : StoreCall :=
  .sync c.settings.security c.ssid c.settings

/-- The last of some credentials that is for the networks with an SSID and a security type. -/
def provisioned? (credentials : List Credential) (ssid : String) (security : Security) :
    Option Settings :=
  ((credentials.filter (·.isFor ssid security)).getLast?).map (·.settings)

theorem provisioned?_concat (credentials : List Credential) (c : Credential) (ssid : String)
    (security : Security) :
    provisioned? (credentials ++ [c]) ssid security =
      if c.ssid = ssid ∧ c.settings.security = security then some c.settings
      else provisioned? credentials ssid security := by
  rw [provisioned?, List.filter_append]
  by_cases here : c.ssid = ssid ∧ c.settings.security = security
  · simp [Credential.isFor, here]
  · have other : c.isFor ssid security = false := by simpa [Credential.isFor] using here
    rw [if_neg here]
    simp [other, provisioned?]

/-- Of the credentials that a store is told of, it answers with the last one. -/
theorem settings_foldl_call (known : KnownNetworks) (credentials : List Credential) (ssid : String)
    (security : Security) :
    ((credentials.map Credential.call).foldl KnownNetworks.apply known).settings ssid security =
      (provisioned? credentials ssid security).or (known.settings ssid security) := by
  induction credentials using List.reverseRecOn with
  | nil => rfl
  | append_singleton credentials c ih =>
    rw [List.map_append, List.foldl_append, provisioned?_concat]
    simp only [List.map_cons, List.map_nil, List.foldl_cons, List.foldl_nil, Credential.call,
      KnownNetworks.apply, KnownNetworks.sync, if_true, KnownNetworks.settings_insert, ih]
    split <;> rfl

end Enrollment

namespace Station

/-! ### What goes to the store -/

/-- Picks out what the store is told. -/
def stored : Observer StoreCall where
  pick _ e :=
    match e with
    | .store call => some call
    | _ => none

theorem Turn.stored_storeCredentials (t : Turn) (credentials : List Enrollment.Credential) :
    (t.storeCredentials credentials).picked stored =
      t.picked stored ++ credentials.map Enrollment.Credential.call := by
  unfold storeCredentials
  induction credentials generalizing t with
  | nil => simp
  | cons c rest ih =>
    rw [List.foldl_cons, ih, picked_record, List.append_assoc]
    rfl

/-- An enrollment that ends with credentials tells the store of each, and changes nothing else. -/
theorem completeEnrollment_ok {s : Station} (enrolling : s.isEnrolling = true)
    (env : Surroundings) (credentials : List Enrollment.Credential) :
    let m : Move := ⟨s, env, .completeEnrollment (.ok credentials)⟩
    m.result = .ok () ∧ m.after = { s with enrollment := none } ∧
      m.picked stored = credentials.map Enrollment.Credential.call := by
  intro m
  let t : Turn := { station := s }
  have outcome : t.completeEnrollment (.ok credentials) =
      (.ok (), (t.storeCredentials credentials).endEnrollment (.ok ())) := if_pos enrolling
  have unchanged : (t.storeCredentials credentials).station = s := by
    simp [Turn.storeCredentials, Turn.station_foldl_record, t]
  refine ⟨congrArg Prod.fst outcome, ?_, ?_⟩
  · show (t.completeEnrollment (.ok credentials)).2.station = _
    rw [outcome, Turn.station_endEnrollment, unchanged]
  · show (t.completeEnrollment (.ok credentials)).2.picked stored = _
    rw [outcome, Turn.picked_endEnrollment, Turn.stored_storeCredentials]
    simp [stored, t, Turn.picked, Observer.picks]

/-! ### What is offered -/

/-- An attempt at an access point that is listed and heard goes by what its network offers. -/
theorem Turn.plan_of_listed {env : Surroundings} {s : Station} {n : Network} {a : Address}
    {o : Observation} (found : s.catalogue.network? n.path = some n)
    (lists : n.hasAccessPoint a = true) (current : s.catalogue.observation? a = some o) :
    plan env s n.path a =
      (Context.negotiate o n.ssid n.security (n.settings env.store) s.address s.ciphers
        env.lister).map fun context => (o, context) := by
  simp [plan, found, lists, current]

/-- An enrollment at any moment of a run ends with credentials, which go to a store that remembers
what is known.  A network for which nothing else was supplied offers on the next attempt the last of
the credentials that is for its SSID and security type, unless the secret that was stored for it has
been rejected since trust in it was last restored: then the network goes on offering nothing, and
the next attempt is made without the credentials. -/
theorem provisioned_offered_unless_rejected {i : Interface} {config : Config} {moves : List Move}
    {s : Station} (run : Run (.new i config) moves s) (enrolling : s.isEnrolling = true)
    (env : Surroundings) (credentials : List Enrollment.Credential) (known : KnownNetworks) :
    let m : Move := ⟨s, env, .completeEnrollment (.ok credentials)⟩
    let store := (m.picked stored).foldl KnownNetworks.apply known
    m.result = .ok () ∧ m.after.catalogue = s.catalogue ∧
      ∀ n ∈ s.catalogue.networks, n.supplied = none → ∀ settings,
        Enrollment.provisioned? credentials n.ssid n.security = some settings →
        let offered :=
          if (sinceRestored n.path moves).any (·.rejectsStored n.path) then none else some settings
        n.settings store.source = offered ∧
          ∀ next : Surroundings, next.store = store.source → ∀ a o, n.hasAccessPoint a = true →
            s.catalogue.observation? a = some o →
              Turn.plan next m.after n.path a =
                (Context.negotiate o n.ssid n.security offered s.address s.ciphers
                  next.lister).map fun context => (o, context) := by
  intro m store
  obtain ⟨result, after, told⟩ : m.result = .ok () ∧ m.after = { s with enrollment := none } ∧
      m.picked stored = credentials.map Enrollment.Credential.call :=
    completeEnrollment_ok enrolling env credentials
  rw [after]
  refine ⟨result, rfl, ?_⟩
  intro n there unsupplied settings provided offered
  have found : s.catalogue.network? n.path = some n :=
    Catalogue.find?_key_of_mem run.settled.paths there
  have trust : (sinceRestored n.path moves).any (·.rejectsStored n.path) = n.distrusted := by
    rw [← run.distrusts_eq, Catalogue.distrusts_of_network? found]
  have answers : store.source.settings n.ssid n.security = some settings := by
    have last := Enrollment.settings_foldl_call known credentials n.ssid n.security
    rw [← told, provided] at last
    exact last
  have offers : n.settings store.source = offered := by
    simp only [Network.settings, unsupplied, answers, offered, trust]
  refine ⟨offers, fun next reads a o lists current => ?_⟩
  rw [← offers, ← reads]
  exact Turn.plan_of_listed found lists current

namespace Sample

/-- A store that knows a passphrase for the network. -/
def remembered : KnownNetworks := ⟨[⟨"A", .personal, passphrase "stored secret"⟩]⟩

def remembering : Surroundings := { surroundings true with store := remembered.source }

/-- Autoconnect tries the passphrase that is stored, which fails. -/
def disappointed : List (Surroundings × Operation) :=
  [(remembering, .notify .up), (remembering, .notify (.scanResults [secured])),
    (remembering, .notify (.connectResult .handshakeFailed))]

/-- After that a passphrase is supplied and keys are installed with it. -/
def reconciled : List (Surroundings × Operation) :=
  disappointed ++
    [(remembering, .setSecret securedNetwork (passphrase "first secret")),
      (remembering, .connect securedNetwork accessPoint none),
      (remembering, .notify (.event .settingKeys))]

/-- The button is pushed. -/
def pushed : Surroundings × Operation :=
  (remembering, .pushButton (.request 0))

def provisioned : List Enrollment.Credential :=
  [⟨"A", passphrase "fresh secret"⟩, ⟨"A", .unsecured⟩, ⟨"A", passphrase "fresher secret"⟩]

end Sample

/-- Trust was restored before the button was pushed, and the last passphrase that was handed out is
offered. -/
theorem provisioned_offered_reconciled :
    let asked := Sample.reconciled ++ [Sample.pushed]
    let s := Sample.station.played asked
    let m : Move := ⟨s, Sample.remembering, .completeEnrollment (.ok Sample.provisioned)⟩
    let store := (m.picked stored).foldl KnownNetworks.apply Sample.remembered
    Run Sample.station (Sample.station.play asked) s ∧ s.isEnrolling = true ∧
      ∃ n, s.catalogue.network? Sample.securedNetwork = some n ∧ n.supplied = none ∧
        n.settings store.source = some (Sample.passphrase "fresher secret") := by
  intro asked s m store
  have run : Run Sample.station (Sample.station.play asked) s :=
    Sample.run asked (by
      simp [asked, Sample.reconciled, Sample.disappointed, Sample.pushed])
  have enrolling : s.isEnrolling = true := by decide +kernel
  have listed : (s.catalogue.network? Sample.securedNetwork).map
      (fun n => (n.path, n.ssid, n.security, n.supplied)) =
        some (Sample.securedNetwork, "A", .personal, none) := by decide +kernel
  have trusted : (sinceRestored Sample.securedNetwork (Sample.station.play asked)).any
      (·.rejectsStored Sample.securedNetwork) = false := by decide +kernel
  have handed : Enrollment.provisioned? Sample.provisioned "A" .personal =
      some (Sample.passphrase "fresher secret") := by decide +kernel
  obtain ⟨n, found, same⟩ := Option.map_eq_some_iff.1 listed
  obtain ⟨path, ssid, security, unsupplied⟩ : n.path = Sample.securedNetwork ∧ n.ssid = "A" ∧
      n.security = .personal ∧ n.supplied = none := by simpa using same
  obtain ⟨_, _, offers⟩ := provisioned_offered_unless_rejected run enrolling Sample.remembering
    Sample.provisioned Sample.remembered
  have offered := (offers n (List.mem_of_find?_eq_some found) unsupplied _
    (ssid ▸ security ▸ handed)).1
  rw [path, trusted] at offered
  exact ⟨run, enrolling, n, found, unsupplied, offered⟩

/-- The stored passphrase was rejected before the button was pushed.  The store has the passphrase
that was handed out, but the network offers none, and the next attempt fails for want of one. -/
theorem provisioned_secret_not_offered :
    let asked := Sample.disappointed ++ [Sample.pushed]
    let s := Sample.station.played asked
    let m : Move := ⟨s, Sample.remembering, .completeEnrollment (.ok Sample.provisioned)⟩
    let store := (m.picked stored).foldl KnownNetworks.apply Sample.remembered
    let next : Surroundings := { Sample.surroundings true with store := store.source }
    let attempt := m.after.step next (.connect Sample.securedNetwork Sample.accessPoint none)
    Run Sample.station (Sample.station.play asked) s ∧ s.isEnrolling = true ∧
      Sample.failure? m.result = none ∧
      (m.after.catalogue.network? Sample.securedNetwork).map
          (fun n => (n.ssid, n.security, n.supplied)) = some ("A", .personal, none) ∧
      Enrollment.provisioned? Sample.provisioned "A" .personal =
        some (Sample.passphrase "fresher secret") ∧
      store.settings "A" .personal = some (Sample.passphrase "fresher secret") ∧
      (m.after.catalogue.network? Sample.securedNetwork).map (·.settings store.source) =
        some none ∧
      Sample.failure? attempt.1 = some .noSecrets := by
  intro asked s m store next attempt
  have run : Run Sample.station (Sample.station.play asked) s :=
    Sample.run asked (by simp [asked, Sample.disappointed, Sample.pushed])
  refine ⟨run, ?_, ?_, ?_, ?_, ?_, ?_, ?_⟩ <;> decide +kernel

end Station

end WirelessStation
