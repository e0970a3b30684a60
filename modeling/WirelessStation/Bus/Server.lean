import WirelessStation.Bus.Object

/-! # Object servers

Objects are put on the bus with an object server.  The service does not bring one along: this is
what it needs of a server (`Server`), and what it relies on (`Server.Lawful`).

* Registering where a role is taken and withdrawing what is absent changes nothing.  Otherwise the
  object comes or goes; with a withdrawn object may go what is below it, and nothing else.
* A signal carries the value that is read when it is sent.  Nothing is sent for an object that is
  not there or for a property that cannot be read.

The tree of `WirelessStation.Bus.Tree` is such a server. -/

namespace WirelessStation.Bus

/-- The news that a property has changed. -/
structure Signal where
  path : String
  role : Role
  property : String
  value : Value
deriving DecidableEq, Repr

/-- An object server with contents of some type. -/
structure Server (σ : Type) where
  /-- The contents at first. -/
  new : σ
  /-- Whether a text is the path of an object. -/
  isPath : String → Bool
  /-- The object in a role at a path. -/
  object? : σ → String → Role → Option Object
  /-- The object that a call to an interface at a path reaches.  Nothing is relied on of this. -/
  reach? : σ → String → String → Option Object
  /-- Puts an object at a path, and tells how that went. -/
  register : String → Object → σ → Except String Unit × σ
  /-- Takes the object in a role away from a path, and tells how that went. -/
  withdraw : String → Role → σ → Except String Unit × σ
  /-- The signals that are sent for a change of a property of the object in a role at a path. -/
  signals : Manager → σ → String → Role → String → List Signal

/-- Whether characters can be a part of a path: letters, digits and underscores of ASCII. -/
def isPart (part : List Char) : Bool :=
  !part.isEmpty && part.all fun c => c.isAlphanum || c == '_'

/-- Whether a path is below another one.  Everything is below the root. -/
def IsBelow (above path : String) : Prop :=
  above = "/" ∨ ∃ rest, path.toList = above.toList ++ '/' :: rest

namespace Server

variable {σ : Type}

/-- Whether the same objects are there. -/
def Same (server : Server σ) (t t' : σ) : Prop :=
  ∀ path role, server.object? t' path role = server.object? t path role

/-- What is relied on of an object server. -/
structure Lawful (server : Server σ) : Prop where
  object?_new (path : String) (role : Role) : server.object? server.new path role = none
  role_eq {t : σ} {path : String} {role : Role} {o : Object} :
    server.object? t path role = some o → o.role = role
  /-- With one more part, a text is a path if it was one before. -/
  isPath_child {path child : String} {part : List Char} : path ≠ "" → path ≠ "/" →
    isPart part = true → child.toList = path.toList ++ '/' :: part →
    server.isPath child = server.isPath path
  register_accepted {path : String} (t : σ) (o : Object) : server.isPath path = true →
    (server.register path o t).1 = .ok ()
  register_refused {path : String} (t : σ) (o : Object) : server.isPath path = false →
    (∃ text, (server.register path o t).1 = .error text) ∧
      server.Same t (server.register path o t).2
  /-- Registering where the role is taken changes nothing. -/
  register_taken {t : σ} {path : String} {o o' : Object} :
    server.object? t path o.role = some o' → server.Same t (server.register path o t).2
  register_free {t : σ} {path : String} {o : Object} (path' : String) (role : Role) :
    server.isPath path = true → server.object? t path o.role = none →
    server.object? (server.register path o t).2 path' role =
      if path' = path ∧ role = o.role then some o else server.object? t path' role
  /-- Withdrawing what is absent changes nothing. -/
  withdraw_absent {t : σ} {path : String} {role : Role} : server.object? t path role = none →
    server.Same t (server.withdraw path role t).2
  withdraw_present {t : σ} {path : String} {role : Role} {o : Object} :
    server.object? t path role = some o → (server.withdraw path role t).1 = .ok () ∧
      server.object? (server.withdraw path role t).2 path role = none
  /-- Withdrawing adds nothing. -/
  withdraw_adds {t : σ} {path path' : String} {role role' : Role} {o : Object} :
    server.object? (server.withdraw path role t).2 path' role' = some o →
    server.object? t path' role' = some o
  /-- What is neither withdrawn nor below it stays. -/
  withdraw_leaves {t : σ} {path path' : String} {role role' : Role} : ¬IsBelow path path' →
    (path', role') ≠ (path, role) →
    server.object? (server.withdraw path role t).2 path' role' = server.object? t path' role'
  signals_of_none {m : Manager} {t : σ} {path property : String} {role : Role} :
    server.object? t path role = none → server.signals m t path role property = []
  /-- A signal carries the value that is read when it is sent. -/
  signals_of_ok {m : Manager} {t : σ} {path property : String} {role : Role} {o : Object}
    {value : Value} : server.object? t path role = some o → o.read m property = .ok value →
    server.signals m t path role property = [⟨path, role, property, value⟩]
  signals_of_error {m : Manager} {t : σ} {path property : String} {role : Role} {o : Object}
    {failure : Failure} : server.object? t path role = some o →
    o.read m property = .error failure → server.signals m t path role property = []

end Server

end WirelessStation.Bus
