import DiffDigest.Word

/-!
# TOML values

A table remembers how it was begun, for that decides how it may grow: a table
that is only implied by a longer name can still get a header, and the fields of
an inline table are final.
-/

namespace DiffDigest.Toml

/-- How a table was begun. -/
inductive Origin where
  /-- By the header of a table inside it. -/
  | implied
  /-- By a header of its own. -/
  | header
  /-- By a dotted key. -/
  | dotted
  /-- By an inline table. -/
  | inline
deriving DecidableEq, Repr

inductive Value where
  | string (value : String)
  | integer (value : Int)
  /-- A float, unless it is too large for one. -/
  | float (value : Option Float)
  | boolean (value : Bool)
  /-- A date, a time or both, as it is written. -/
  | moment (written : String)
  | array (items : List Value)
  | table (origin : Origin) (fields : List (String × Value))
  /-- Tables under one repeated header; the last of them can still grow. -/
  | tables (earlier : List (List (String × Value))) (last : List (String × Value))
deriving Inhabited

abbrev Fields :=
  List (String × Value)

namespace Value

def string? : Value → Option String
  | .string value => some value
  | _ => none

def boolean? : Value → Option Bool
  | .boolean value => some value
  | _ => none

def unsigned64? : Value → Option Nat
  | .integer (.ofNat value) => if value < Word.size64 then some value else none
  | _ => none

/-- The elements of an array, however it is written. -/
def items? : Value → Option (List Value)
  | .array items => some items
  | .tables earlier last => some ((earlier ++ [last]).map (.table .header))
  | _ => none

end Value

end DiffDigest.Toml
