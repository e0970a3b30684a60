import WirelessStation.Band
import WirelessStation.Credentials
import WirelessStation.Observation
import WirelessStation.Request

/-! # Push-button enrollment

An interface that enrolls runs active scans until exactly one registrar has had its button pushed.
`Enrollment.select` looks for it in one scan: two registrars on one band, or one on each of the two
bands with different identifiers, are an overlap; one registrar on both bands is met at 5 GHz.  The
exchange with the registrar itself happens elsewhere and ends with credentials. -/

namespace WirelessStation.Enrollment

inductive RequestType where
  | enrolleeInfo
  | enrolleeOpen8021x
deriving DecidableEq, Repr

inductive Association where
  | notAssociated
  | connectionSuccess
deriving DecidableEq, Repr

/-- What probe requests say about an enrollee. -/
structure Probe where
  version2 : Bool
  requestType : RequestType
  configMethods : UInt16
  uuid : Uuid
  category : UInt16
  organisation : Bytes
  organisationType : UInt8
  subcategory : UInt16
  bands : UInt8
  association : Association
  configurationError : UInt16
  passwordId : UInt16
  requestToEnroll : Bool
deriving DecidableEq, Repr

/-- The identifiers of enrollees are named in this one. -/
def uuidSpace : Uuid :=
  ⟨#v[0x52, 0x64, 0x80, 0xF8, 0xC9, 0x9B, 0x4B, 0xE5,
    0xA6, 0x55, 0x58, 0xED, 0x5F, 0x5D, 0x60, 0x84]⟩

/-- The identifier of the enrollee at an address. -/
def uuidOf (a : Address) (namer : Uuid.Namer := .standard) : Uuid :=
  namer.named uuidSpace a.bytes

/-- The password identifier of a pushed button. -/
def pushButtonId : UInt16 := 0x0004

/-- The probe request for push-button enrollment at an address: a virtual button and a keypad, both
bands, nothing wrong so far. -/
def Probe.pushButton (a : Address) (namer : Uuid.Namer := .standard) : Probe where
  version2 := true
  requestType := .enrolleeInfo
  configMethods := 0x0280 ||| 0x0100
  uuid := uuidOf a namer
  category := 255
  organisation := [0x00, 0x50, 0xF2]
  organisationType := 4
  subcategory := 0
  bands := 0x01 ||| 0x02
  association := .notAssociated
  configurationError := 0
  passwordId := pushButtonId
  requestToEnroll := true

/-- What one scan says about registrars. -/
inductive Selection where
  | target (address : Address)
  /-- More than one registrar has had its button pushed. -/
  | overlap
  /-- None has yet. -/
  | nobody
deriving DecidableEq, Repr

/-- The registrar of an access point that invites by push button. -/
def inviting? (o : Observation) : Option Registrar :=
  o.registrar.filter fun r => r.selected && r.passwordId == pushButtonId

/-- A registrar that was met on some band. -/
structure Met where
  address : Address
  uuid : Uuid
deriving DecidableEq, Repr

/-- What the registrars met on the two bands amount to. -/
def verdict : Option Met → Option Met → Selection
  | none, none => .nobody
  | some two, none => .target two.address
  | none, some five => .target five.address
  | some two, some five => if two.uuid = five.uuid then .target five.address else .overlap

/-- Goes on with the scan, given the registrars met so far at 2.4 and at 5 GHz. -/
def selectFrom (two five : Option Met) : List Observation → Selection
  | [] => verdict two five
  | o :: rest =>
    match inviting? o with
    | none => selectFrom two five rest
    | some r =>
      let met : Met := ⟨o.address, r.uuid⟩
      match Band.ofFrequency? o.frequency with
      | some .twoGhz => if two.isSome then .overlap else selectFrom (some met) five rest
      | some .fiveGhz => if five.isSome then .overlap else selectFrom two (some met) rest
      | _ => selectFrom two five rest

/-- The registrar to enroll with, from all observations of a scan. -/
def select (observations : List Observation) : Selection :=
  selectFrom none none observations

/-- What a registrar hands out. -/
structure Credential where
  ssid : String
  settings : Settings
deriving DecidableEq, Repr

/-- An enrollment under way. -/
structure Session where
  requester : Requester
  probe : Probe
  /-- The registrar, once one is found. -/
  target : Option Address
  /-- Whether the results of its scan are still to come. -/
  scanning : Bool
deriving DecidableEq, Repr

end WirelessStation.Enrollment
