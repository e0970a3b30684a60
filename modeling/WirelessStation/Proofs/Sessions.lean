import WirelessStation.Proofs.Mirroring
import WirelessStation.Simulation.Session

/-! # Sessions are bus services

A session keeps its objects in a tree, and what it tells a station to do for a call or a write is
what the object says that is reached there (`Bus.Tree.serve_cases`).  A command that attaches or
releases an interface, makes a call, writes a property or hands on a notification is therefore one
step of a bus service with the tree as its object server, with the same manager and the same tree
afterwards (`agrees_perform`).  A session of such commands, from its start on, is therefore a
service whose manager had no interfaces at first (`session_agrees`), and all that is known about
the objects of those holds of it. -/

namespace WirelessStation

namespace Bus.Tree

variable (m : Manager) (t : Tree)

/-- Calls that reach no object are answered at once. -/
theorem serve_cases (c : Call) :
    (∃ o, t.reach? c.path c.interface = some o ∧ t.serve m c = o.serve m c.member) ∨
      t.reach? c.path c.interface = none ∧ ∃ r, t.serve m c = .answer r := by
  unfold serve reach?
  by_cases peer : c.interface = busInterface "Peer"
  · refine .inr ⟨?_, ?_⟩
    · have bus (p : Place) : t.provider p c.interface = .ok .bus := by
        rw [provider, peer]
        rfl
      cases t.node c.path with
      | error _ => rfl
      | ok p => simp only [bus]
    · simp only [peer, if_true]
      cases servePeer c.member with
      | error f => exact ⟨_, rfl⟩
      | ok r => exact ⟨_, rfl⟩
  · simp only [if_neg peer]
    cases t.node c.path with
    | error f => exact .inr ⟨rfl, _, rfl⟩
    | ok p =>
      simp only [bind, Except.bind]
      cases t.provider p c.interface with
      | error f => exact .inr ⟨rfl, _, rfl⟩
      | ok provider =>
        cases provider with
        | object o => exact .inl ⟨o, rfl, rfl⟩
        | bus =>
          refine .inr ⟨rfl, ?_⟩
          simp only
          cases t.serveBus m p c with
          | error f => exact ⟨_, rfl⟩
          | ok r => exact ⟨_, rfl⟩

/-- Writes are what the object that they reach says. -/
theorem serveWrite_eq (path interface property : String) (on : Bool) :
    (t.serveWrite path interface property on).toOption =
      (t.reach? path interface).bind fun o => o.write? property on := by
  unfold serveWrite reach?
  cases t.node path with
  | error f => rfl
  | ok p =>
    simp only [bind, Except.bind]
    cases t.provider p interface with
    | error f => rfl
    | ok provider =>
      cases provider with
      | bus => rfl
      | object o =>
        simp only [Option.bind_some]
        cases o.write? property on with
        | none => rfl
        | some order => rfl

end Bus.Tree

namespace Simulation.Session

open Bus

/-- The step of a bus service that a command is, in a session with this number for the next call. -/
def Command.operation? (number : Nat) : Command → Option Bus.Operation
  | attach index => some (.attach index)
  | release index => some (.release index)
  | call c => some (.call (.call number) c)
  | set path interface property on [] => some (.write (.call number) path interface property on)
  | world ⟨.notify index notification, _⟩ => some (.dispatch index notification)
  | _ => none

/-- Whether a command is such a step. -/
def Command.isStep (command : Command) : Bool :=
  (command.operation? 0).isSome

theorem Command.isSome_operation? {command : Command} (step : command.isStep = true)
    (number : Nat) : (command.operation? number).isSome = true := by
  cases command with
  | attach _ | release _ | call _ => rfl
  | set path interface property on steps =>
    cases steps with
    | nil => rfl
    | cons _ _ => cases step
  | world step' =>
    obtain ⟨command, shown⟩ := step'
    cases command with
    | notify _ _ => rfl
    | _ => cases step
  | await _ => cases step

/-- A session and a service with one manager and one tree. -/
structure Agrees (s : Session) (sc : Scene Tree) : Prop where
  manager_eq : sc.manager = s.world.manager
  tree_eq : sc.contents = s.tree

variable {s : Session} {sc : Scene Tree}

/-- The pump follows a turn of the manager. -/
theorem Agrees.follow (h : s.Agrees sc) {t : Manager.Turn} {s' : Session}
    (tree : s'.tree = (Tree.server.drain t.manager t.log s.tree).1)
    (manager : s'.world.manager = t.manager) : s'.Agrees (sc.follow Tree.server t) where
  manager_eq := manager.symm
  tree_eq := by
    rw [tree, ← h.tree_eq]
    rfl

theorem agrees_order (h : s.Agrees sc) (index : Nat) (order : Order) (caller : Nat) :
    let ordered := s.order index order caller
    (ordered.2.2.follow ordered.2.1).2.Agrees
      (sc.turn Tree.server index (order.run (s.world.surroundings.at index) (.call caller))) := by
  intro ordered
  rw [Scene.turn, h.manager_eq]
  simp only [ordered, Session.order, World.act]
  cases Manager.Turn.withStation? index
      (order.run (s.world.surroundings.at index) (.call caller)) { manager := s.world.manager } with
  | none => exact ⟨h.manager_eq, h.tree_eq⟩
  | some outcome => exact h.follow rfl rfl

/-- A session gives the next call its number first. -/
theorem Agrees.numbered (h : s.Agrees sc) : { s with nextCall := s.nextCall + 1 }.Agrees sc :=
  ⟨h.manager_eq, h.tree_eq⟩

theorem agrees_call (h : s.Agrees sc) (c : Call) :
    (s.perform (.call c)).2.Agrees
      (sc.step Tree.server s.world.surroundings (.call (.call s.nextCall) c)) := by
  rw [Scene.step, h.manager_eq, h.tree_eq, Session.perform, Session.call]
  simp only [Session.number]
  rcases s.tree.serve_cases s.world.manager c with ⟨o, reached, served⟩ | ⟨unreached, r, served⟩
  · have reached : Tree.server.reach? s.tree c.path c.interface = some o := reached
    rw [reached, served, Option.map_some]
    cases o.serve s.world.manager c.member with
    | answer r => exact ⟨h.manager_eq, h.tree_eq⟩
    | order index order =>
      have agrees := agrees_order h.numbered index order s.nextCall
      exact ⟨agrees.manager_eq, agrees.tree_eq⟩
  · have unreached : Tree.server.reach? s.tree c.path c.interface = none := unreached
    rw [unreached, served, Option.map_none]
    exact ⟨h.manager_eq, h.tree_eq⟩

theorem agrees_set (h : s.Agrees sc) (path interface property : String) (on : Bool) :
    (s.perform (.set path interface property on [])).2.Agrees
      (sc.step Tree.server s.world.surroundings
        (.write (.call s.nextCall) path interface property on)) := by
  have written : (Tree.server.reach? s.tree path interface).bind (·.write? property on) =
      (s.tree.serveWrite path interface property on).toOption :=
    (s.tree.serveWrite_eq path interface property on).symm
  rw [Scene.step, h.tree_eq, written, Session.perform, Session.set]
  simp only [Session.number, Session.meanwhile, World.performAll]
  cases s.tree.serveWrite path interface property on with
  | error f => exact ⟨h.manager_eq, h.tree_eq⟩
  | ok target =>
    obtain ⟨index, order⟩ := target
    have agrees := agrees_order h.numbered index order s.nextCall
    simp only [List.map_nil, List.flatMap_nil, List.append_nil]
    exact ⟨agrees.manager_eq, agrees.tree_eq⟩

theorem agrees_perform (h : s.Agrees sc) {command : Command} {op : Bus.Operation}
    (step : command.operation? s.nextCall = some op) :
    (s.perform command).2.Agrees (sc.step Tree.server s.world.surroundings op) := by
  cases command with
  | attach index =>
    cases step
    rw [Scene.step, h.manager_eq, h.tree_eq, Session.perform]
    generalize Bus.attach Tree.server index s.tree { manager := s.world.manager } = outcome
    obtain ⟨result, tree, t⟩ := outcome
    exact ⟨rfl, rfl⟩
  | release index =>
    cases step
    rw [Scene.step, h.manager_eq, h.tree_eq]
    exact ⟨rfl, rfl⟩
  | call c =>
    cases step
    exact agrees_call h c
  | set path interface property on steps =>
    cases steps with
    | nil =>
      cases step
      exact agrees_set h path interface property on
    | cons _ _ => cases step
  | world step' =>
    obtain ⟨command, shown⟩ := step'
    cases command with
    | notify index notification =>
      cases step
      rw [Scene.step, h.manager_eq]
      exact h.follow rfl rfl
    | _ => cases step
  | await number => cases step

/-- A session begins with its own interface, which is attached. -/
theorem agrees_start {config : Config} {store : Store} (started : start config store = .ok s)
    (env : Manager.Surroundings) :
    s.Agrees ((Scene.new Tree.server config).played Tree.server
      [(env, .add anchor), (env, .attach anchor.index)]) := by
  unfold start at started
  rw [Scene.played, Scene.played, Scene.played, Scene.step, Scene.new]
  cases added : Manager.add { config } anchor with
  | error e =>
    rw [added] at started
    cases started
  | ok manager =>
    rw [added] at started
    simp only [bind, Except.bind] at started
    simp only
    rw [Scene.step]
    have new : Tree.server.new = {} := rfl
    rw [new]
    simp only
    generalize Bus.attach Tree.server anchor.index {} { manager } = outcome at started ⊢
    obtain ⟨result, tree, t⟩ := outcome
    cases result with
    | error e => cases started
    | ok _ =>
      cases started
      exact ⟨rfl, rfl⟩

theorem agrees_performAll (h : s.Agrees sc) {commands : List Command}
    (steps : ∀ command ∈ commands, command.isStep = true) :
    ∃ asked, (s.performAll commands).2.Agrees (sc.played Tree.server asked) := by
  induction commands generalizing s sc with
  | nil => exact ⟨[], h⟩
  | cons command rest ih =>
    obtain ⟨first, others⟩ := List.forall_mem_cons.1 steps
    obtain ⟨op, step⟩ := Option.isSome_iff_exists.1 (command.isSome_operation? first s.nextCall)
    obtain ⟨asked, agrees⟩ := ih (agrees_perform h step) others
    exact ⟨(s.world.surroundings, op) :: asked, agrees⟩

/-- Whatever commands of these kinds a session is given from its start on, it agrees with a service
that began without interfaces. -/
theorem session_agrees {config : Config} {store : Store} (started : start config store = .ok s)
    {commands : List Command} (steps : ∀ command ∈ commands, command.isStep = true) :
    ∃ asked, (s.performAll commands).2.Agrees
      ((Scene.new Tree.server config).played Tree.server asked) := by
  let env : Manager.Surroundings := s.world.surroundings
  obtain ⟨asked, agrees⟩ := agrees_performAll (agrees_start started env) steps
  refine ⟨[(env, .add anchor), (env, .attach anchor.index)] ++ asked, ?_⟩
  rw [Scene.played_append]
  exact agrees

end Simulation.Session

end WirelessStation
