import WirelessStation.Error

/-! # Requests

A request that is accepted is answered later.  Until then its requester waits in a slot.  Of each
kind of request at most one waits.  Emptying a slot without an answer drops the requester, who
learns no more than that. -/

namespace WirelessStation

/-- Who waits for an answer. -/
inductive Requester where
  /-- Request number `id` of the embedding program. -/
  | request (id : Nat)
  /-- Method call number `id` on the message bus. -/
  | call (id : Nat)
deriving DecidableEq, Repr

/-- How waiting ended. -/
inductive Reply where
  | answered (result : Result)
  /-- The requester was dropped without an answer. -/
  | dropped

/-- The slots of a station, one for each kind of request. -/
inductive Slot where
  | scan
  | connect
  | disconnect
  | power
deriving DecidableEq, Repr

/-- The requesters that wait, by slot. -/
structure Pending where
  scan : Option Requester := none
  connect : Option Requester := none
  disconnect : Option Requester := none
  power : Option Requester := none
deriving DecidableEq, Repr, Inhabited

namespace Pending

/-- Who waits in a slot. -/
def get (p : Pending) : Slot → Option Requester
  | .scan => p.scan
  | .connect => p.connect
  | .disconnect => p.disconnect
  | .power => p.power

/-- Puts a requester into a slot, or empties it. -/
def set (p : Pending) (slot : Slot) (requester : Option Requester) : Pending :=
  match slot with
  | .scan => { p with scan := requester }
  | .connect => { p with connect := requester }
  | .disconnect => { p with disconnect := requester }
  | .power => { p with power := requester }

@[simp] theorem get_set_same (p : Pending) (slot : Slot) (r : Option Requester) :
    (p.set slot r).get slot = r := by
  cases slot <;> rfl

theorem get_set_ne (p : Pending) {slot other : Slot} (r : Option Requester) (h : other ≠ slot) :
    (p.set slot r).get other = p.get other := by
  cases slot <;> cases other <;> simp_all [get, set]

end Pending

end WirelessStation
