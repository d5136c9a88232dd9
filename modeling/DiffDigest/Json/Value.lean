/-!
# JSON values

An object keeps its fields sorted by key, each key once: two objects with the
same fields are equal, in whatever order the fields came.  A number is an
integer when it was written as one and fits 64 bits; all others are floats.
-/

namespace DiffDigest

inductive Json where
  | null
  | bool (value : Bool)
  | integer (value : Int)
  | float (value : Float)
  | string (value : String)
  | array (items : List Json)
  | object (fields : List (String × Json))
deriving Inhabited, BEq

namespace Json

def keepLast : List (String × Json) → List (String × Json)
  | first :: second :: rest =>
      if first.1 = second.1 then keepLast (second :: rest)
      else first :: keepLast (second :: rest)
  | fields => fields

/-- The object with these fields; of fields with one key the last counts. -/
def ofFields (fields : List (String × Json)) : Json :=
  .object (keepLast (fields.mergeSort fun a b => a.1 ≤ b.1))

def get? (json : Json) (key : String) : Option Json :=
  match json with
  | .object fields => fields.lookup key
  | _ => none

def string? : Json → Option String
  | .string value => some value
  | _ => none

def bool? : Json → Option Bool
  | .bool value => some value
  | _ => none

def integer? : Json → Option Int
  | .integer value => some value
  | _ => none

def natBelow? (bound : Nat) : Json → Option Nat
  | .integer (.ofNat value) => if value < bound then some value else none
  | _ => none

def array? : Json → Option (List Json)
  | .array items => some items
  | _ => none

def isNull : Json → Bool
  | .null => true
  | _ => false

end Json

end DiffDigest
