/-! # Watchlists

Watchers subscribe to events and get a number back, which is never zero.  Numbers go up to the
largest one of 32 bits, and start again when that is used up; no list lasts that long.  Events go to
the watchers in the order in which they subscribed.  A watch may come with a cleanup, which is due
when the watch ends: by removal, or when the whole list is cleared. -/

namespace WirelessStation

/-- One subscription. -/
structure Watch (α : Type) where
  id : Nat
  watcher : α
  /-- Whether something is due when the watch ends. -/
  hasCleanup : Bool
deriving DecidableEq, Repr

structure Watchlist (α : Type) where
  nextId : Nat := 1
  watches : List (Watch α) := []
deriving DecidableEq, Repr

namespace Watchlist

variable {α : Type}

def size (l : Watchlist α) : Nat :=
  l.watches.length

/-- Those whom an event reaches, in order. -/
def watchers (l : Watchlist α) : List α :=
  l.watches.map (·.watcher)

/-- The number that is given after a number: the one after it, and the first one after the last. -/
def idAfter (id : Nat) : Nat :=
  if id + 1 < UInt32.size then id + 1 else 1

/-- Subscribes, and says under which number. -/
def add (l : Watchlist α) (watcher : α) (hasCleanup : Bool := false) : Nat × Watchlist α :=
  (l.nextId, ⟨idAfter l.nextId, l.watches ++ [⟨l.nextId, watcher, hasCleanup⟩]⟩)

/-- The watch with a number. -/
def find? (l : Watchlist α) (id : Nat) : Option (Watch α) :=
  l.watches.find? fun w => w.id == id

/-- The cleanups that are due when these watches end. -/
def cleanups (ended : List (Watch α)) : List α :=
  (ended.filter (·.hasCleanup)).map (·.watcher)

/-- Ends one watch.  Says whether there was one, and which cleanup is due. -/
def remove (l : Watchlist α) (id : Nat) : Bool × Watchlist α × List α :=
  match l.find? id with
  | none => (false, l, [])
  | some w => (true, { l with watches := l.watches.eraseP fun w => w.id == id }, cleanups [w])

/-- Ends every watch.  Says which cleanups are due. -/
def clear (l : Watchlist α) : Watchlist α × List α :=
  ({ l with watches := [] }, cleanups l.watches)

/-- Lets every watcher take in an event. -/
def map (l : Watchlist α) (take : α → α) : Watchlist α :=
  { l with watches := l.watches.map fun w => { w with watcher := take w.watcher } }

end Watchlist

end WirelessStation
