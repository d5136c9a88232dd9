import DiffDigest.Toml.Scalar
import DiffDigest.Toml.Table
import DiffDigest.Toml.Token

/-!
# Reading TOML

The tokens of a text are put together to a document by an automaton whose stack
holds the open arrays and inline tables.  At most 80 of them may be open at
once.  Only inside them may a value be spread over lines.
-/

namespace DiffDigest.Toml

/-- An array or inline table that is not closed yet. -/
inductive Open where
  /-- The items so far stand last first. -/
  | array (items : List Value)
  | table (fields : Fields) (key : Key)

/-- Where a value stands: the key of its line and what is open around it. -/
structure Place where
  key : Key
  outer : List Open := []

inductive Purpose where
  | pair
  | field (fields : Fields) (place : Place)
  | header
  | elementHeader

inductive Expecting where
  | line
  | lineEnd
  /-- After the first bracket of a line. -/
  | headerName
  /-- After the first of two closing brackets. -/
  | headerEnd (key : Key)
  /-- A part of a key; the parts in front of it stand last first. -/
  | part (purpose : Purpose) (parts : List String)
  | partEnd (purpose : Purpose) (parts : List String) (last : String)
  | awaitValue (place : Place)
  /-- The rest of a value without quotes. -/
  | wordEnd (chars : List Char) (place : Place)
  /-- After a date and a blank; a time may still follow. -/
  | awaitTime (date : List Char) (place : Place)
  /-- An item of an array or its end. -/
  | awaitItem (items : List Value) (place : Place)
  /-- A field of an inline table or its end. -/
  | awaitField (fields : Fields) (place : Place)
  /-- What may stand behind a value. -/
  | after (value : Value) (place : Place)

namespace Expecting

/-- What is expected next, and the blocks so far; blocks and their pairs stand last first. -/
abbrev State :=
  Expecting × List Block

def maxDepth : Nat :=
  80

def isKeyChar (c : Char) : Bool :=
  c.isAlphanum || c = '_' || c = '-'

/-- The part of a key that a token is; long strings are no keys. -/
def part? : Token → Option String
  | .word chars => if chars.all isKeyChar then some (String.ofList chars) else none
  | .text value false => some value
  | _ => none

def keyOf (parts : List String) (last : String) : Key :=
  ⟨parts.reverse, last⟩

def addPair (pair : Pair) : List Block → List Block
  | [] => [⟨.top, [pair]⟩]
  | block :: rest => { block with pairs := pair :: block.pairs } :: rest

def stepLine (blocks : List Block) (token : Token) : Option State :=
  match token with
  | .blank _ | .newline => some (.line, blocks)
  | .openSquare => some (.headerName, blocks)
  | _ => (part? token).map fun last => (.partEnd .pair [] last, blocks)

def stepLineEnd (blocks : List Block) : Token → Option State
  | .blank _ => some (.lineEnd, blocks)
  | .newline => some (.line, blocks)
  | _ => none

def stepPart (purpose : Purpose) (parts : List String) (blocks : List Block) (token : Token) :
    Option State :=
  match token with
  | .blank _ => some (.part purpose parts, blocks)
  | _ => (part? token).map fun last => (.partEnd purpose parts last, blocks)

def stepPartEnd (purpose : Purpose) (parts : List String) (last : String)
    (blocks : List Block) (token : Token) : Option State :=
  let key := keyOf parts last
  match token, purpose with
  | .blank _, _ => some (.partEnd purpose parts last, blocks)
  | .dot, _ => some (.part purpose (last :: parts), blocks)
  | .equals, .pair => some (.awaitValue ⟨key, []⟩, blocks)
  | .equals, .field fields place =>
      some (.awaitValue { place with outer := .table fields key :: place.outer }, blocks)
  | .closeSquare, .header => some (.lineEnd, ⟨.table key, []⟩ :: blocks)
  | .closeSquare, .elementHeader => some (.headerEnd key, blocks)
  | _, _ => none

def stepValue (place : Place) (blocks : List Block) : Token → Option State
  | .word chars => some (.wordEnd chars place, blocks)
  | .text value _ => some (.after (.string value) place, blocks)
  | .openSquare => if place.outer.length < maxDepth then some (.awaitItem [] place, blocks) else none
  | .openCurly => if place.outer.length < maxDepth then some (.awaitField [] place, blocks) else none
  | _ => none

def stepAfter (value : Value) (place : Place) (blocks : List Block) (token : Token) :
    Option State :=
  match place.outer with
  | [] => stepLineEnd (addPair ⟨place.key, value⟩ blocks) token
  | .array items :: outer =>
      match token with
      | .blank _ | .newline => some (.after value place, blocks)
      | .comma => some (.awaitItem (value :: items) ⟨place.key, outer⟩, blocks)
      | .closeSquare =>
          some (.after (.array (value :: items).reverse) ⟨place.key, outer⟩, blocks)
      | _ => none
  | .table fields key :: outer =>
      match token with
      | .blank _ | .newline => some (.after value place, blocks)
      | .comma => do
          let fields ← Fields.addPair? fields ⟨key, value⟩
          pure (.awaitField fields ⟨place.key, outer⟩, blocks)
      | .closeCurly => do
          let fields ← Fields.addPair? fields ⟨key, value⟩
          pure (.after (.table .inline fields) ⟨place.key, outer⟩, blocks)
      | _ => none

/-- Take a token inside or behind a value without quotes. -/
def stepWordEnd (chars : List Char) (place : Place) (blocks : List Block) (token : Token) :
    Option State :=
  match token with
  | .word more => some (.wordEnd (chars ++ more) place, blocks)
  | .dot => some (.wordEnd (chars ++ ['.']) place, blocks)
  | _ =>
      match token, Moment.isDate chars with
      | .blank ' ', true => some (.awaitTime chars place, blocks)
      | _, _ => do stepAfter (← Scalar.read? chars) place blocks token

def step (state : State) (token : Token) : Option State :=
  let (expecting, blocks) := state
  match expecting with
  | .line => stepLine blocks token
  | .lineEnd => stepLineEnd blocks token
  | .headerName =>
      match token with
      | .openSquare => some (.part .elementHeader [], blocks)
      | _ => stepPart .header [] blocks token
  | .headerEnd key =>
      match token with
      | .closeSquare => some (.lineEnd, ⟨.element key, []⟩ :: blocks)
      | _ => none
  | .part purpose parts => stepPart purpose parts blocks token
  | .partEnd purpose parts last => stepPartEnd purpose parts last blocks token
  | .awaitValue place =>
      match token with
      | .blank _ => some (.awaitValue place, blocks)
      | _ => stepValue place blocks token
  | .wordEnd chars place => stepWordEnd chars place blocks token
  | .awaitTime date place =>
      match token with
      | .word time => some (.wordEnd (date ++ ' ' :: time) place, blocks)
      | _ => do stepAfter (← Scalar.read? date) place blocks token
  | .awaitItem items place =>
      match token with
      | .blank _ | .newline => some (.awaitItem items place, blocks)
      | .closeSquare => some (.after (.array items.reverse) place, blocks)
      | _ => stepValue { place with outer := .array items :: place.outer } blocks token
  | .awaitField fields place =>
      match token with
      | .blank _ | .newline => some (.awaitField fields place, blocks)
      | .closeCurly => some (.after (.table .inline fields) place, blocks)
      | _ => stepPart (.field fields place) [] blocks token
  | .after value place => stepAfter value place blocks token

end Expecting

def Document.read? (text : List Char) : Option Document := do
  match (← tokens? text).foldlM Expecting.step (.line, []) with
  | some (.line, blocks) =>
      some (blocks.map fun block => { block with pairs := block.pairs.reverse }).reverse
  | _ => none

def read? (text : String) : Option Fields := do
  (← Document.read? text.toList).table?

end DiffDigest.Toml
