/-! # Documents

Settings arrive as documents: nested values with named fields.  This module holds the value type and
the readers for the simple shapes; each kind of settings reads itself from them.  A reader fails
with `none`. -/

namespace WirelessStation

/-- A value of a document.  No reader looks into a number. -/
inductive Document where
  | null
  | bool (value : Bool)
  | number
  | text (value : String)
  | list (items : List Document)
  | record (fields : List (String × Document))
deriving Inhabited

namespace Document

def bool? : Document → Option Bool
  | bool b => some b
  | _ => none

def text? : Document → Option String
  | text s => some s
  | _ => none

/-- A value that may be null. -/
def nullable? {α : Type} (read : Document → Option α) : Document → Option (Option α)
  | null => some none
  | d => (read d).map some

/-- The name of a choice without content: a text, or a record with the name as its only field, whose
value is null. -/
def choice? : Document → Option String
  | text s => some s
  | record [(name, null)] => some name
  | _ => none

/-- The value of a field. -/
def field? (fields : List (String × Document)) (name : String) : Option Document :=
  (fields.find? fun f => f.1 == name).map (·.2)

end Document

end WirelessStation
