import WirelessStation.Error

/-! # Failures on the bus

What a client of the bus is answered when something goes wrong: a name and a text.  Requests fail
under names of the wireless service, reads of the object tree under those that every bus has.  The
text for an error is its message. -/

namespace WirelessStation.Bus

/-- A failure as a client sees it. -/
structure Failure where
  name : String
  text : String
deriving DecidableEq, Repr

namespace Failure

/-- A failure under a name of the wireless service. -/
def ofService (name text : String) : Failure :=
  ⟨"net.connman.iwd." ++ name, text⟩

/-- A failure under a name that every bus has. -/
def ofBus (name text : String) : Failure :=
  ⟨"org.freedesktop.DBus.Error." ++ name, text⟩

/-- The failure that stands for an error. -/
def ofError (e : Error) : Failure :=
  match e with
  | .busy => ofService "Busy" e.message
  | .notConnected => ofService "NotConnected" e.message
  | .rejected | .handshakeFailed | .linkFailed => ofService "Failed" e.message
  | .aborted => ofService "Aborted" e.message
  | .invalidInput _ => ofService "InvalidArgs" e.message
  | .notAvailable => ofService "NotAvailable" e.message
  | .notFound => ofService "NotFound" e.message
  | .noSecrets => ofService "NoAgent" e.message
  | .notSupported => ofService "NotSupported" e.message
  | .sessionOverlap => ofService "SessionOverlap" e.message
  | .bus text => ⟨"org.freedesktop.zbus.Error", text⟩

def unknownObject (path : String) : Failure :=
  ofBus "UnknownObject" ("Unknown object '" ++ path ++ "'")

def unknownInterface (name : String) : Failure :=
  ofBus "UnknownInterface" ("Unknown interface '" ++ name ++ "'")

def unknownMethod (name : String) : Failure :=
  ofBus "UnknownMethod" ("Unknown method '" ++ name ++ "'")

def unknownProperty (name : String) : Failure :=
  ofBus "UnknownProperty" ("Unknown property '" ++ name ++ "'")

/-- The text that names an interface that is not managed. -/
def missingInterface (index : Nat) : String :=
  "interface " ++ toString index

/-- A request to an interface that is not managed. -/
def missingStation (index : Nat) : Failure :=
  ofService "NotFound" (missingInterface index)

/-- A request whose requester was dropped. -/
def abandoned : Failure :=
  ofService "Aborted" "request dropped"

/-- A failure as one line of text. -/
def line (f : Failure) : String :=
  f.name ++ ": " ++ f.text

/-- The failure of a write, which tells the failure behind it. -/
def ofWrite (f : Failure) : Failure :=
  ofBus "Failed" f.line

/-- The failure of a write whose property cannot be read afterwards. -/
def ofAnnouncement (f : Failure) : Failure :=
  ofError (.bus f.line)

end Failure

end WirelessStation.Bus
