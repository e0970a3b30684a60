import WirelessStation.Enrollment
import WirelessStation.Handshake

/-! # The link layer

A station asks its link layer for an operation by a call, which is accepted or refused at once.
What comes of an accepted call, and what happens on the link, arrives later as a notification. -/

namespace WirelessStation

/-- How a scan listens. -/
inductive ScanMode where
  | passive
  /-- Sends probe requests. -/
  | active
deriving DecidableEq, Repr

structure ScanRequest where
  mode : ScanMode
  /-- What the probe requests say about an enrollee. -/
  probe : Option Enrollment.Probe := none
deriving DecidableEq, Repr

def ScanRequest.passive : ScanRequest := ⟨.passive, none⟩

def ScanRequest.enrolling (probe : Enrollment.Probe) : ScanRequest := ⟨.active, some probe⟩

/-- What a station may ask of its link layer. -/
inductive LinkCall where
  | scan (request : ScanRequest)
  /-- Starts or stops scanning in the background; never refused. -/
  | periodicScan (enabled : Bool)
  | connect (target : Observation) (context : Option Context)
  | disconnect
  | power (on : Bool)
deriving DecidableEq, Repr

/-- How an attempt to connect ended. -/
inductive Outcome where
  | success
  /-- Overtaken by a disconnect or a teardown. -/
  | aborted
  | handshakeFailed
  | linkFailed
deriving DecidableEq, Repr, Inhabited

namespace Outcome

def text : Outcome → String
  | success => "success"
  | aborted => "aborted"
  | handshakeFailed => "handshake failed"
  | linkFailed => "link failed"

/-- What whoever asked for the attempt is told. -/
def error? : Outcome → Option Error
  | success => none
  | aborted => some .aborted
  | handshakeFailed => some .handshakeFailed
  | linkFailed => some .linkFailed

def result (o : Outcome) : Result :=
  match o.error? with
  | none => .ok ()
  | some e => .error e

end Outcome

/-- What happens on the link while a connection is made or up. -/
inductive LinkEvent where
  | authenticating
  | associating
  | handshaking
  /-- The key exchange went as far as installing keys. -/
  | settingKeys
  | lostBeacon
  /-- The access point ended the connection. -/
  | apDisconnect
deriving DecidableEq, Repr, Inhabited

def LinkEvent.text : LinkEvent → String
  | authenticating => "Authenticating"
  | associating => "Associating"
  | handshaking => "Handshaking"
  | settingKeys => "Setting keys"
  | lostBeacon => "Lost beacon"
  | apDisconnect => "Disconnected by AP"

/-- Everything that a link layer reports. -/
inductive Notification where
  | up
  | down
  | renamed (name : String)
  /-- Whether a scan that was asked for has started. -/
  | scanTriggered (result : Result)
  | scanResults (observations : List Observation)
  | connectResult (outcome : Outcome)
  | disconnectResult (success : Bool)
  | event (event : LinkEvent)
  | powerResult (result : Result)

end WirelessStation
