import WirelessStation.Bus.Server

/-! # The tree of objects

Objects stand at places, which are the paths of the bus read part by part.  Every place on the way
to an object has a node of its own.  A node stays while anything is at or below it, and goes with
all that is below it when its last object is withdrawn; the nodes above it stay.

* `Tree.register?` puts an object at a path, unless its role is taken there.
* `Tree.withdraw?` takes the object in a role away from a path.
* `Tree.provider` finds what provides an interface at a node.  Every node has the interfaces of the
  bus itself beside those of its objects.

With these the tree is an object server (`Tree.server`). -/

namespace WirelessStation.Bus

/-- A path, part by part from the root. -/
abbrev Place := List (List Char)

/-- The pieces of a text between its slashes. -/
def pieces : List Char → List (List Char)
  | [] => [[]]
  | c :: rest =>
    if c = '/' then [] :: pieces rest
    else
      match pieces rest with
      | [] => [[c]]
      | piece :: more => (c :: piece) :: more

theorem pieces_ne_nil (cs : List Char) : pieces cs ≠ [] := by
  cases cs with
  | nil => simp [pieces]
  | cons c rest =>
    simp only [pieces]
    split
    · simp
    · split <;> simp

/-- A slash separates. -/
theorem pieces_append_slash (cs ds : List Char) :
    pieces (cs ++ '/' :: ds) = pieces cs ++ pieces ds := by
  induction cs with
  | nil => simp [pieces]
  | cons c cs ih =>
    simp only [List.cons_append, pieces, ih]
    split
    · simp
    · cases h : pieces cs with
      | nil => exact absurd h (pieces_ne_nil cs)
      | cons piece more => simp

/-- The place that a path names.  A path starts with a slash, and but for the path of the root it
has no slash at its end. -/
def Place.ofPath? (path : String) : Option Place :=
  match pieces path.toList with
  | [[], []] => some []
  | [] :: piece :: more => if (piece :: more).all isPart then some (piece :: more) else none
  | _ => none

structure Tree where
  /-- There is a node at each of these places and on the way to them. -/
  grown : List Place := [[]]
  objects : List (Place × Object) := []
deriving Repr

namespace Tree

def hasNode (t : Tree) (p : Place) : Bool :=
  t.grown.any p.isPrefixOf

/-- Every place on the way to a node has a node. -/
theorem hasNode_of_prefix {t : Tree} {p q : Place} (h : p <+: q) (hq : t.hasNode q) :
    t.hasNode p := by
  simp only [hasNode, List.any_eq_true, List.isPrefixOf_iff_prefix] at *
  obtain ⟨r, hr, hqr⟩ := hq
  exact ⟨r, hr, h.trans hqr⟩

/-- The object in a role at a place. -/
def find? (t : Tree) (p : Place) (role : Role) : Option Object :=
  (t.objects.find? fun x => x.1 == p && x.2.role == role).map (·.2)

/-- The object in a role at a path. -/
def object? (t : Tree) (path : String) (role : Role) : Option Object :=
  (Place.ofPath? path).bind fun p => t.find? p role

/-- Puts an object at a place.  A role that is taken stays with the object that has it. -/
def put (p : Place) (o : Object) (t : Tree) : Tree :=
  if (t.find? p o.role).isSome then t
  else { grown := p :: t.grown, objects := t.objects ++ [(p, o)] }

/-- After an object was put at a place, its role is taken there: by the object that had it before,
or else by this one. -/
theorem find?_put (p : Place) (o : Object) (t : Tree) :
    (t.put p o).find? p o.role = some ((t.find? p o.role).getD o) := by
  simp only [put]
  split
  · next h => obtain ⟨o', h'⟩ := Option.isSome_iff_exists.1 h; simp [h']
  · next h =>
    simp only [find?, Option.isSome_map, Bool.not_eq_true, Option.isSome_eq_false_iff,
      Option.isNone_iff_eq_none] at h ⊢
    simp [List.find?_append, h]

/-- Puts an object at a path; `none` if there is no such path. -/
def register? (t : Tree) (path : String) (o : Object) : Option Tree :=
  (Place.ofPath? path).map fun p => t.put p o

/-- Takes away a node with all that is below it. -/
def cut (p : Place) (t : Tree) : Tree where
  grown := p.dropLast :: t.grown.filter fun q => !p.isPrefixOf q
  objects := t.objects.filter fun x => !p.isPrefixOf x.1

/-- Takes the object in a role away from a place. -/
def take (p : Place) (role : Role) (t : Tree) : Tree :=
  let rest := { t with objects := t.objects.filter fun x => !(x.1 == p && x.2.role == role) }
  if rest.objects.any fun x => x.1 == p then rest else rest.cut p

/-- Takes the object in a role away from a path; `none` if there is none. -/
def withdraw? (t : Tree) (path : String) (role : Role) : Option Tree :=
  (Place.ofPath? path).bind fun p =>
    if (t.find? p role).isSome then some (t.take p role) else none

/-- The signals to send when a property of an object has changed, if it can be read. -/
def announce (m : Manager) (t : Tree) (path : String) (role : Role) (property : String) :
    Except Failure (List Signal) :=
  match t.object? path role with
  | none => .ok []
  | some o => (o.read m property).map fun value => [⟨path, role, property, value⟩]

end Tree

/-! ### Providers -/

def busInterface (name : String) : String :=
  "org.freedesktop.DBus." ++ name

/-- What provides an interface at a node. -/
inductive Provider where
  | bus
  | object (o : Object)
deriving DecidableEq, Repr

namespace Tree

/-- The place of a node. -/
def node (t : Tree) (path : String) : Except Failure Place :=
  match (Place.ofPath? path).filter t.hasNode with
  | some p => .ok p
  | none => .error (.unknownObject path)

/-- What provides an interface at a place. -/
def provider (t : Tree) (p : Place) (interface : String) : Except Failure Provider :=
  if ["Peer", "Introspectable", "Properties"].any fun name => busInterface name == interface then
    .ok .bus
  else
    match [Role.device, .enrollment, .network].find? fun role => role.interface == interface with
    | none => .error (.unknownInterface interface)
    | some role =>
      match t.find? p role with
      | none => .error (.unknownInterface interface)
      | some o => .ok (.object o)

/-- The object that provides an interface at a path. -/
def reach? (t : Tree) (path interface : String) : Option Object :=
  match t.node path with
  | .error _ => none
  | .ok p =>
    match t.provider p interface with
    | .ok (.object o) => some o
    | _ => none

/-- The object server whose contents are a tree. -/
def server : Server Tree where
  new := {}
  isPath path := (Place.ofPath? path).isSome
  object? := object?
  reach? := reach?
  register path o t :=
    match t.register? path o with
    | none => (.error "invalid object path", t)
    | some t => (.ok (), t)
  withdraw path role t :=
    match t.withdraw? path role with
    | none => (.error "interface not found", t)
    | some t => (.ok (), t)
  signals m t path role property := (t.announce m path role property).toOption.getD []

end Tree

end WirelessStation.Bus
