/-! # Structured values

The values of JSON.  Whole numbers are exact and unbounded.  A number written
with a fraction, an exponent or as minus zero is a number of another sort and
keeps its text.  An object keeps its members in the order in which they stand. -/

namespace SchemaPool

/-- A JSON value. -/
inductive Json where
  | null
  | bool (value : Bool)
  | int (value : Int)
  | real (digits : String)
  | str (value : String)
  | arr (items : List Json)
  | obj (members : List (String × Json))
deriving Repr, Inhabited

namespace Json

/-- The value of an object's first member of the given name. -/
def field? (name : String) : Json → Option Json
  | obj members => members.lookup name
  | _ => none

def nat? : Json → Option Nat
  | int (.ofNat n) => some n
  | _ => none

def str? : Json → Option String
  | str s => some s
  | _ => none

def bool? : Json → Option Bool
  | bool b => some b
  | _ => none

def items? : Json → Option (List Json)
  | arr items => some items
  | _ => none

def ofNat (n : Nat) : Json := int n

def ofOption {α : Type} (encode : α → Json) : Option α → Json
  | some a => encode a
  | none => null

end Json

end SchemaPool
