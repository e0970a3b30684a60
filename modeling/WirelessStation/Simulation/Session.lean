import WirelessStation.Bus.Call
import WirelessStation.Bus.Service
import WirelessStation.Simulation.World

/-! # A client on the bus of a simulated world

A session is a simulated world whose interfaces are shown on a bus, together with the calls that one
client has made.  Calls and writes are numbered in the order in which they are made.  After each
command the pump follows what was announced.

A write announces the property once more by itself, at the moment at which it ends: at once if the
station has nothing to do, otherwise when the client looks for the reply.

The service needs an interface of its own to start with; it is added and attached first and never
shown in a list of interfaces. -/

namespace WirelessStation.Simulation

/-- The interface that every session starts with. -/
def anchor : Interface where
  index := 4294967295
  name := "anchor"
  address := ⟨Vector.replicate 6 0⟩
  phy := 0

/-- A call whose reply the client has not taken yet. -/
structure OpenCall where
  number : Nat
  /-- The reply, if it is there. -/
  reply : Option Bus.Reply

structure Session where
  world : World
  tree : Bus.Tree
  /-- The number of the next call. -/
  nextCall : Nat := 0
  /-- By ascending number. -/
  calls : List OpenCall := []

namespace Session

inductive Command where
  | world (step : Step)
  | attach (index : Nat)
  | release (index : Nat)
  | call (c : Bus.Call)
  /-- Takes the reply to a call. -/
  | await (number : Nat)
  /-- Writes a property; the steps are carried out before the client looks for the reply. -/
  | set (path interface property : String) (on : Bool) (steps : List Step)

/-- What a client sees of a call. -/
inductive Sight where
  | reply (r : Bus.Reply)
  /-- The reply comes later. -/
  | pending
  /-- There is no such call, or its reply was taken before. -/
  | unknown

inductive Answer where
  | world (r : Simulation.Report)
  | result (r : Result)
  | called (number : Nat) (sight : Sight)
  | awaited (sight : Sight)
  | written (meanwhile : List Simulation.Report) (sight : Sight)

/-- What a command brought about.  The log of a command to the world is in its own report. -/
structure Report where
  answer : Answer
  log : List Manager.Notice := []
  replies : List (Nat × Reply) := []
  signals : List Bus.Signal := []

/-- How a notice ends the waiting of a call. -/
def callEnd? : Manager.Notice → Option (Nat × Bus.Reply)
  | .did _ (.answer (.call number) result) => some (number, .ofResult result)
  | .did _ (.drop (.call number)) => some (number, .failed .abandoned)
  | _ => none

/-- The reply to a call in a log. -/
def replyIn (number : Nat) (log : List Manager.Notice) : Option Bus.Reply :=
  (log.filterMap callEnd?).lookup number

/-- Keeps the replies in a log for the calls that wait for them. -/
def settle (log : List Manager.Notice) (s : Session) : Session :=
  { s with calls := s.calls.map fun c =>
      { c with reply := c.reply.or (replyIn c.number log) } }

/-- Lets the pump follow a log, and keeps the replies in it. -/
def follow (log : List Manager.Notice) (s : Session) : List Bus.Signal × Session :=
  let (tree, signals) := Bus.Tree.server.drain s.world.manager log s.tree
  (signals, settle log { s with tree })

/-- Gives a station an order for a caller; the reply, if the caller need not wait, and what was
done. -/
def order (index : Nat) (order : Bus.Order) (caller : Nat) (s : Session) :
    Option Bus.Reply × List Manager.Notice × Session :=
  let env := s.world.surroundings.at index
  let (answer, log, world) := s.world.act index fun t => order.run env (.call caller) t
  let reply := match answer with
    | .result (.error e) => some (.failed (.ofError e))
    | .result (.ok ()) => if order.isAwaited then replyIn caller log else some .done
    | _ => some (.failed (.missingStation index))
  (reply, log, { s with world })

/-- The number of a call that is made now. -/
def number (s : Session) : Nat × Session :=
  (s.nextCall, { s with nextCall := s.nextCall + 1 })

def Sight.ofReply : Option Bus.Reply → Sight
  | some r => reply r
  | none => pending

/-- Makes a call. -/
def call (c : Bus.Call) (s : Session) : Report × Session :=
  let (number, s) := s.number
  match s.tree.serve s.world.manager c with
  | .answer r => ({ answer := .called number (.reply r) }, s)
  | .order index task =>
    let (reply, log, s) := s.order index task number
    let (signals, s) := s.follow log
    let calls := match reply with
      | some _ => s.calls
      | none => s.calls ++ [⟨number, none⟩]
    ({ answer := .called number (.ofReply reply), log, replies := s.world.replies log, signals },
      { s with calls })

/-- Takes the reply to a call. -/
def await (number : Nat) (s : Session) : Sight × Session :=
  match s.calls.find? fun c => c.number == number with
  | none => (.unknown, s)
  | some ⟨_, none⟩ => (.pending, s)
  | some ⟨_, some r⟩ => (.reply r, { s with calls := s.calls.filter fun c => c.number != number })

/-- Puts what happened before at the front of the first report; if there is none, it is left over.
-/
def prepend (log : List Manager.Notice) :
    List Simulation.Report → List Manager.Notice × List Simulation.Report
  | [] => (log, [])
  | r :: rest => ([], { r with log := log ++ r.log } :: rest)

/-- Ends a write, from the reply to its order: how it went, and the signals for the property.  They
carry the value that is read now; a write whose property cannot be read afterwards has failed. -/
def endWrite (path property : String) (s : Session) : Bus.Reply → Bus.Reply × List Bus.Signal
  | .done =>
    match s.tree.announce s.world.manager path .device property with
    | .ok signals => (.done, signals)
    | .error f => (.failed (.ofAnnouncement f), [])
  | .failed f => (.failed (.ofWrite f), [])
  | r => (r, [])

/-- Leaves the session's own interface out of a list of interfaces. -/
def hideAnchor (r : Simulation.Report) : Simulation.Report :=
  match r.answer with
  | .stations list => { r with answer := .stations (list.filter fun s => s.index != anchor.index) }
  | _ => r

/-- Carries out steps of the world. -/
def meanwhile (steps : List Step) (s : Session) : List Simulation.Report × Session :=
  let (reports, world) := s.world.performAll steps
  (reports.map hideAnchor, { s with world })

/-- Writes a property and carries out steps before the client looks for the reply. -/
def set (path interface property : String) (on : Bool) (steps : List Step) (s : Session) :
    Report × Session :=
  let (number, s) := s.number
  match s.tree.serveWrite path interface property on with
  | .error f =>
    let (reports, s) := s.meanwhile steps
    let (signals, s) := s.follow (reports.flatMap Simulation.Report.log)
    ({ answer := .written reports (.reply (.failed f)), signals }, s)
  | .ok (index, task) =>
    let (reply, log, s) := s.order index task number
    let early := reply.map (s.endWrite path property)
    let (reports, s) := s.meanwhile steps
    let all := log ++ reports.flatMap Simulation.Report.log
    let (signals, s) := s.follow all
    let ended := early.or ((replyIn number all).map (s.endWrite path property))
    let own := (ended.map Prod.snd).getD []
    let (log, reports) := prepend log reports
    ({ answer := .written reports (.ofReply (ended.map Prod.fst)), log, signals := signals ++ own },
      s)

/-- Carries out a command. -/
def perform (s : Session) : Command → Report × Session
  | .world step =>
    let (report, world) := s.world.perform step
    let (signals, s) := { s with world }.follow report.log
    ({ answer := .world (hideAnchor report), signals }, s)
  | .attach index =>
    let (result, tree, t) := Bus.attach Bus.Tree.server index s.tree { manager := s.world.manager }
    ({ answer := .result result, log := t.log }, { s with tree, world := s.world.absorb t })
  | .release index =>
    let (result, tree, t) := Bus.release Bus.Tree.server index s.tree { manager := s.world.manager }
    let s := settle t.log { s with tree, world := s.world.absorb t }
    ({ answer := .result result, log := t.log, replies := s.world.replies t.log }, s)
  | .call c => s.call c
  | .await number =>
    let (sight, s) := s.await number
    ({ answer := .awaited sight }, s)
  | .set path interface property on steps => s.set path interface property on steps

/-- Carries out commands in order. -/
def performAll (s : Session) : List Command → List Report × Session
  | [] => ([], s)
  | command :: rest =>
    let (report, s) := s.perform command
    let (reports, s) := s.performAll rest
    (report :: reports, s)

/-- What a session leaves at its end. -/
structure End where
  log : List Manager.Notice
  replies : List (Nat × Reply)
  signals : List Bus.Signal
  /-- The replies that the client had not taken. -/
  calls : List (Nat × Bus.Reply)

/-- Ends every station and shows what came of it. -/
def finish (s : Session) : End :=
  let t := Manager.Turn.shutdown { manager := s.world.manager }
  let (signals, s) := { s with world := s.world.absorb t }.follow t.log
  { log := t.log, replies := s.world.replies t.log, signals
    calls := s.calls.filterMap fun c => c.reply.map fun r => (c.number, r) }

/-- A session without any interface but its own. -/
def start (config : Config) (store : Store) : Except Error Session := do
  let manager ← { config : Manager }.add anchor
  let (result, tree, t) := Bus.attach Bus.Tree.server anchor.index {} { manager }
  result
  return { world := (World.new config store).absorb t, tree }

end Session

end WirelessStation.Simulation
