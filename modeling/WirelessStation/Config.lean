import WirelessStation.Document
import WirelessStation.Path
import WirelessStation.Suite

/-! # Configuration

How interfaces start out, where they are named, and which ciphers the radio has.  A configuration is
read from a record, in which any field may be missing, or from a list of at most three values; what
is missing has its default. -/

namespace WirelessStation

structure Config where
  /-- Whether interfaces come up in autoconnect mode. -/
  autoconnect : Bool := true
  /-- In front of every name. -/
  objectRoot : String := "/net/connman/iwd"
  supportedCiphers : CipherSet := CipherSet.ccmp.union .tkip
deriving DecidableEq, Repr, Inhabited

namespace Config

/-- The root without slashes at its end. -/
def trimmedRoot (c : Config) : String :=
  String.ofList (c.objectRoot.toList.reverse.dropWhile (· == '/')).reverse

/-- The name of a radio. -/
def adapterPath (c : Config) (phy : Nat) : String :=
  c.trimmedRoot ++ "/" ++ toString phy

/-- Reads a value that is there, and takes the default of one that is missing. -/
def valueOr {α : Type} (default : α) (read : Document → Option α) : Option Document → Option α
  | none => some default
  | some d => read d

def ofValues? (autoconnect root ciphers : Option Document) : Option Config := do
  let standard : Config := {}
  let autoconnect ← valueOr standard.autoconnect Document.bool? autoconnect
  let root ← valueOr standard.objectRoot Document.text? root
  let ciphers ← valueOr standard.supportedCiphers
    (fun d => d.text?.bind CipherSet.ofText?) ciphers
  return ⟨autoconnect, root, ciphers⟩

def ofDocument? : Document → Option Config
  | .record fields =>
    let value := Document.field? fields
    ofValues? (value "autoconnect") (value "object_root") (value "supported_ciphers")
  | .list items =>
    if items.length ≤ 3 then ofValues? items[0]? items[1]? items[2]? else none
  | _ => none

end Config

end WirelessStation
