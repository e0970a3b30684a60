import WirelessStation.Store

/-! # Known networks by recency

A credential store in memory: one list of known networks, the one most recently connected first.  A
network is identified by its SSID and its security type, which is that of its settings.  The rank
modifier falls with the place in the list. -/

namespace WirelessStation

/-- A network with its credentials. -/
structure KnownNetwork where
  ssid : String
  security : Security
  settings : Settings
deriving DecidableEq, Repr

namespace KnownNetwork

/-- Whether this is the network with the given SSID and security type. -/
def isFor (k : KnownNetwork) (ssid : String) (security : Security) : Bool :=
  k.ssid == ssid && k.security == security

end KnownNetwork

/-- The known networks, the one most recently connected first. -/
structure KnownNetworks where
  entries : List KnownNetwork := []
deriving DecidableEq, Repr, Inhabited

namespace KnownNetworks

/-- The modifiers of the first places; the last one holds for all further places. -/
def modifiers : List Float :=
  [1.0, 0.9, 0.8, 0.7, 0.6, 0.5, 0.4, 0.3]

/-- The modifier of a place. -/
def modifierAt (place : Nat) : Float :=
  modifiers.getD (min place (modifiers.length - 1)) 0.3

/-- The place of a network. -/
def place? (s : KnownNetworks) (ssid : String) (security : Security) : Option Nat :=
  s.entries.findIdx? fun k => k.isFor ssid security

def find? (s : KnownNetworks) (ssid : String) (security : Security) : Option KnownNetwork :=
  s.entries.find? fun k => k.isFor ssid security

def rankModifier (s : KnownNetworks) (ssid : String) (security : Security) : Option Float :=
  (s.place? ssid security).map modifierAt

def settings (s : KnownNetworks) (ssid : String) (security : Security) : Option Settings :=
  (s.find? ssid security).map (·.settings)

/-- Writes over the entry of the same network, or adds one behind all others. -/
def insertEntry (k : KnownNetwork) : List KnownNetwork → List KnownNetwork
  | [] => [k]
  | e :: rest => if e.isFor k.ssid k.security then k :: rest else e :: insertEntry k rest

/-- Adds a network behind all others, or updates it in place. -/
def insert (s : KnownNetworks) (ssid : String) (settings : Settings) : KnownNetworks :=
  ⟨insertEntry ⟨ssid, settings.security, settings⟩ s.entries⟩

/-- Forgets a network. -/
def erase (s : KnownNetworks) (ssid : String) (security : Security) : KnownNetworks :=
  ⟨s.entries.filter fun k => !k.isFor ssid security⟩

def contains (s : KnownNetworks) (ssid : String) (security : Security) : Bool :=
  s.entries.any fun k => k.isFor ssid security

/-- Stores credentials, unless they are for another security type. -/
def sync (s : KnownNetworks) (security : Security) (ssid : String) (settings : Settings) :
    KnownNetworks :=
  if settings.security = security then s.insert ssid settings else s

/-- Moves a known network to the front.  An unknown one is remembered only if it takes no
credentials. -/
def markConnected (s : KnownNetworks) (ssid : String) (security : Security) : KnownNetworks :=
  match s.find? ssid security with
  | some k => ⟨k :: s.entries.eraseP fun e => e.isFor ssid security⟩
  | none =>
    match security with
    | .unsecured => ⟨⟨ssid, .unsecured, .unsecured⟩ :: s.entries⟩
    | _ => s

/-- Carries out a call. -/
def apply (s : KnownNetworks) : StoreCall → KnownNetworks
  | .sync security ssid settings => s.sync security ssid settings
  | .markConnected ssid security => s.markConnected ssid security

/-- What the store answers now. -/
def source (s : KnownNetworks) : CredentialSource where
  rankModifier := s.rankModifier
  settings := s.settings

/-- SSIDs and security types, in order. -/
def listing (s : KnownNetworks) : List (String × Security) :=
  s.entries.map fun k => (k.ssid, k.security)

theorem isFor_iff {k : KnownNetwork} {ssid : String} {security : Security} :
    k.isFor ssid security = true ↔ k.ssid = ssid ∧ k.security = security := by
  simp [KnownNetwork.isFor]

/-- What is written is found, and everything else as before. -/
theorem find?_insertEntry (k : KnownNetwork) (entries : List KnownNetwork) (ssid : String)
    (security : Security) :
    (insertEntry k entries).find? (·.isFor ssid security) =
      if k.isFor ssid security then some k else entries.find? (·.isFor ssid security) := by
  induction entries with
  | nil => cases h : k.isFor ssid security <;> simp [insertEntry, h]
  | cons e rest ih =>
    unfold insertEntry
    split
    next same =>
      have agree : e.isFor ssid security = k.isFor ssid security := by
        obtain ⟨name, type⟩ := isFor_iff.1 same
        rw [KnownNetwork.isFor, KnownNetwork.isFor, name, type]
      cases h : k.isFor ssid security <;> simp [agree, h]
    next other =>
      rw [List.find?_cons, ih]
      cases here : e.isFor ssid security with
      | false => simp [here]
      | true =>
        have apart : k.isFor ssid security = false := by
          rw [← Bool.not_eq_true]
          intro there
          obtain ⟨name, type⟩ := isFor_iff.1 there
          exact other (isFor_iff.2 (name ▸ type ▸ isFor_iff.1 here))
        simp [here, apart]

/-- What is stored is answered, and otherwise what was before. -/
theorem settings_insert (s : KnownNetworks) (name : String) (settings : Settings) (ssid : String)
    (security : Security) :
    (s.insert name settings).settings ssid security =
      if name = ssid ∧ settings.security = security then some settings
      else s.settings ssid security := by
  rw [KnownNetworks.settings, find?, insert, find?_insertEntry]
  by_cases here : name = ssid ∧ settings.security = security
  · rw [if_pos here, if_pos (isFor_iff.2 here)]
    rfl
  · rw [if_neg here, if_neg (mt isFor_iff.1 here)]
    rfl

end KnownNetworks

end WirelessStation
