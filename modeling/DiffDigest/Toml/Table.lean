import DiffDigest.Toml.Value

/-!
# Building TOML tables

A table is built from what a document says line by line.  Nothing may be said
twice: a key gets one value, a table one header, and a table that was begun in
one way cannot be continued in another.
-/

namespace DiffDigest.Toml

/-- A dotted key: the last part and the parts in front of it. -/
structure Key where
  front : List String
  last : String
deriving DecidableEq, Repr

structure Pair where
  key : Key
  value : Value

/-- What a group of pairs belongs to. -/
inductive Heading where
  | top
  | table (key : Key)
  /-- A new element of an array of tables. -/
  | element (key : Key)

structure Block where
  heading : Heading
  pairs : List Pair

abbrev Document :=
  List Block

namespace Fields

def put (key : String) (value : Value) (fields : Fields) : Fields :=
  fields.map fun field => if field.1 = key then (key, value) else field

/--
Change the table that some keys lead to.  Missing tables on the way are made
with the given origin.  A dotted key does not lead into a table that has a
header, and no way leads into an inline table or another value.
-/
def alter (made : Origin) (change : Origin → Fields → Option Fields) :
    List String → Origin → Fields → Option Fields
  | [], origin, fields => change origin fields
  | key :: rest, _, fields =>
      match fields.lookup key with
      | none => do
          let inner ← alter made change rest made []
          pure (fields ++ [(key, .table made inner)])
      | some (.table origin inner) =>
          if origin = .inline || (made = .dotted && origin = .header) then none
          else (alter made change rest origin inner).map fun inner =>
            put key (.table origin inner) fields
      | some (.tables earlier last) =>
          (alter made change rest .header last).map fun last =>
            put key (.tables earlier last) fields
      | some _ => none

def add? (key : String) (value : Value) (fields : Fields) : Option Fields :=
  match fields.lookup key with
  | none => some (fields ++ [(key, value)])
  | some _ => none

/-- Add a pair; a dotted key only adds to tables that dotted keys have begun. -/
def addPair? (fields : Fields) (pair : Pair) : Option Fields :=
  alter .dotted
    (fun origin inner =>
      if origin = .dotted || pair.key.front.isEmpty then add? pair.key.last pair.value inner
      else none)
    pair.key.front .header fields

def addTable? (key : String) (pairs : List Pair) (fields : Fields) : Option Fields :=
  match fields.lookup key with
  | none => do
      let inner ← pairs.foldlM addPair? []
      pure (fields ++ [(key, .table .header inner)])
  | some (.table .implied inner) => do
      let inner ← pairs.foldlM addPair? inner
      pure (put key (.table .header inner) fields)
  | some _ => none

def addElement? (key : String) (pairs : List Pair) (fields : Fields) : Option Fields := do
  let element ← pairs.foldlM addPair? []
  match fields.lookup key with
  | none => pure (fields ++ [(key, .tables [] element)])
  | some (.tables earlier last) => pure (put key (.tables (earlier ++ [last]) element) fields)
  | some _ => none

def addBlock? (fields : Fields) (block : Block) : Option Fields :=
  match block.heading with
  | .top => block.pairs.foldlM addPair? fields
  | .table key => alter .implied (fun _ => addTable? key.last block.pairs) key.front .header fields
  | .element key =>
      alter .implied (fun _ => addElement? key.last block.pairs) key.front .header fields

end Fields

def Document.table? (document : Document) : Option Fields :=
  document.foldlM Fields.addBlock? []

end DiffDigest.Toml
