import WirelessStation.Watchlist

/-! # A watchlist at work

Watchers with labels that count how often they were called. -/

namespace WirelessStation.Simulation

/-- A watcher and the number of events that it has heard. -/
structure Listener where
  label : String
  heard : Nat := 0
deriving DecidableEq, Repr

namespace Listener

def hear (l : Listener) : Listener :=
  { l with heard := l.heard + 1 }

/-- What happens on the side of the watchers. -/
inductive Trace where
  | called (listener : Listener) (event : Int)
  | cleanedUp (label : String)

inductive Command where
  | add (label : String) (hasCleanup : Bool)
  | remove (id : Nat)
  | notify (event : Int)
  | clear
  /-- Drops the list and starts a new one. -/
  | renew

inductive Answer where
  | done
  | id (n : Nat)
  | flag (b : Bool)

def cleanedUp (ended : List Listener) : List Trace :=
  ended.map fun l => .cleanedUp l.label

def perform (l : Watchlist Listener) : Command → Answer × List Trace × Watchlist Listener
  | .add label hasCleanup =>
    let (id, l) := l.add { label } hasCleanup
    (.id id, [], l)
  | .remove id =>
    let (found, l, due) := l.remove id
    (.flag found, cleanedUp due, l)
  | .notify event =>
    let l := l.map hear
    (.done, l.watchers.map fun w => .called w event, l)
  | .clear => (.done, cleanedUp l.clear.2, l.clear.1)
  | .renew => (.done, cleanedUp l.clear.2, {})

end Listener

end WirelessStation.Simulation
