import WirelessStation.Request

/-! # One slot and one listener

A slot for a requester, and somebody who listens for the answer.  Whoever listens looks after every
command: nothing has come yet, the answer is there and is taken, or nothing can come any more. -/

namespace WirelessStation.Simulation

/-- What is left to listen for. -/
inductive Line where
  /-- The requester may still answer. -/
  | live
  /-- The answer is there. -/
  | holds (result : Result)
  /-- Nothing can come any more. -/
  | closed

structure Mailbox where
  /-- Whether a requester waits in the slot. -/
  filled : Bool := false
  /-- The line to the listener, if somebody listens to the requester made last. -/
  line : Option Line := none

namespace Mailbox

inductive Command where
  /-- Puts a new requester into the slot, with somebody who listens or not. -/
  | fill (heard : Bool)
  /-- Lets go of the requester. -/
  | empty
  /-- Answers the requester. -/
  | answer (result : Result)

/-- What a look brings. -/
inductive Seen where
  | nothing
  | answer (result : Result)
  | closed

def perform (m : Mailbox) : Command → Mailbox
  | .fill heard => ⟨true, if heard then some .live else none⟩
  | .empty => ⟨false, m.line.map fun l => if m.filled then .closed else l⟩
  | .answer result => ⟨false, m.line.map fun l => if m.filled then .holds result else l⟩

/-- Looks, and takes an answer that is there. -/
def poll (m : Mailbox) : Option Seen × Mailbox :=
  match m.line with
  | none => (none, m)
  | some .live => (some .nothing, m)
  | some (.holds result) => (some (.answer result), { m with line := some .closed })
  | some .closed => (some .closed, m)

end Mailbox

end WirelessStation.Simulation
