import DiffDigest.Json.Number
import DiffDigest.Text.Utf8

/-!
# Reading JSON

A text is cut into tokens, one character at a time, and the tokens are put
together by an automaton whose stack holds the open arrays and objects.  At
most 127 of them may be open at once, and nothing may follow the value.
-/

namespace DiffDigest.Json

inductive Token where
  | openArray
  | closeArray
  | openObject
  | closeObject
  | comma
  | colon
  | scalar (value : Json)

def hexUnit? (a b c d : Char) : Option Nat :=
  [a, b, c, d].foldlM (fun total c => (Text.hexValue? c).map (total * 16 + ·)) 0

def escaped? (c : Char) : Option Char :=
  match c with
  | '"' => some '"'
  | '\\' => some '\\'
  | '/' => some '/'
  | 'b' => some '\x08'
  | 'f' => some '\x0C'
  | 'n' => some '\n'
  | 'r' => some '\r'
  | 't' => some '\t'
  | _ => none

/-- Where the reading of a string's content stands. -/
inductive Content where
  | plain
  | escape
  | unit (digits : List Char)
  /-- A first half of a pair was read; its second half must follow. -/
  | half (first : Nat)
  | halfEscape (first : Nat)
  | halfUnit (first : Nat) (digits : List Char)

/-- Take one character of a string's content; the characters so far stand last first. -/
def Content.step (state : Content × List Char) (c : Char) : Option (Content × List Char) :=
  let (content, done) := state
  match content with
  | .plain =>
      if c = '\\' then some (.escape, done)
      else if c.toNat < 0x20 then none
      else some (.plain, c :: done)
  | .escape =>
      if c = 'u' then some (.unit [], done)
      else (escaped? c).map fun c => (.plain, c :: done)
  | .unit [x, y, z] => do
      let value ← hexUnit? x y z c
      if 0xD800 ≤ value && value < 0xDC00 then pure (.half value, done)
      else if 0xDC00 ≤ value && value < 0xE000 then none
      else pure (.plain, Char.ofNat value :: done)
  | .unit digits => some (.unit (digits ++ [c]), done)
  | .half first => if c = '\\' then some (.halfEscape first, done) else none
  | .halfEscape first => if c = 'u' then some (.halfUnit first [], done) else none
  | .halfUnit first [x, y, z] => do
      let value ← hexUnit? x y z c
      if 0xDC00 ≤ value && value < 0xE000 then
        pure (.plain, Char.ofNat (0x10000 + (first - 0xD800) * 0x400 + (value - 0xDC00)) :: done)
      else none
  | .halfUnit first digits => some (.halfUnit first (digits ++ [c]), done)

def unescape? (content : List Char) : Option String :=
  match content.foldlM Content.step (.plain, []) with
  | some (.plain, done) => some (String.ofList done.reverse)
  | _ => none

def word? (word : List Char) : Option Json :=
  if word = ['n', 'u', 'l', 'l'] then some .null
  else if word = ['t', 'r', 'u', 'e'] then some (.bool true)
  else if word = ['f', 'a', 'l', 's', 'e'] then some (.bool false)
  else number? word

/-- Where the cutting into tokens stands; characters stand last first. -/
inductive Scan where
  | between
  | word (chars : List Char)
  | content (chars : List Char) (escaped : Bool)

/-- The token of a character that stands alone, or `none` for a blank. -/
def mark? (c : Char) : Option (Option Token) :=
  match c with
  | '[' => some (some .openArray)
  | ']' => some (some .closeArray)
  | '{' => some (some .openObject)
  | '}' => some (some .closeObject)
  | ',' => some (some .comma)
  | ':' => some (some .colon)
  | ' ' | '\t' | '\n' | '\r' => some none
  | _ => none

def Scan.step (state : Scan × List Token) (c : Char) : Option (Scan × List Token) :=
  let (scan, done) := state
  match scan with
  | .content chars true => some (.content (c :: chars) false, done)
  | .content chars false =>
      if c = '"' then (unescape? chars.reverse).map fun text =>
        (.between, .scalar (.string text) :: done)
      else some (.content (c :: chars) (c = '\\'), done)
  | .between =>
      if c = '"' then some (.content [] false, done)
      else match mark? c with
        | some token => some (.between, token.toList ++ done)
        | none => some (.word [c], done)
  | .word chars =>
      if c = '"' then none
      else match mark? c with
        | some token => (word? chars.reverse).map fun value =>
            (.between, token.toList ++ .scalar value :: done)
        | none => some (.word (c :: chars), done)

def tokens? (text : List Char) : Option (List Token) := do
  let (scan, done) ← text.foldlM Scan.step (.between, [])
  match scan with
  | .between => pure done.reverse
  | .word chars => pure (Token.scalar (← word? chars.reverse) :: done).reverse
  | .content _ _ => none

/-- An array or object that is not closed yet; what it holds stands last first. -/
inductive Open where
  | array (items : List Json)
  | object (fields : List (String × Json)) (key : String)

/-- What may come next, and the open arrays and objects, innermost first. -/
inductive Assembly where
  | awaitValue (outer : List Open)
  | awaitFirstItem (outer : List Open)
  | awaitFirstKey (outer : List Open)
  | awaitKey (fields : List (String × Json)) (outer : List Open)
  | awaitColon (fields : List (String × Json)) (key : String) (outer : List Open)
  | complete (value : Json) (outer : List Open)

def Assembly.stepValue (outer : List Open) : Token → Option Assembly
  | .scalar value => some (.complete value outer)
  | .openArray => if outer.length < 127 then some (.awaitFirstItem outer) else none
  | .openObject => if outer.length < 127 then some (.awaitFirstKey outer) else none
  | _ => none

def Assembly.stepKey (fields : List (String × Json)) (outer : List Open) :
    Token → Option Assembly
  | .scalar (.string key) => some (.awaitColon fields key outer)
  | _ => none

def Assembly.step : Assembly → Token → Option Assembly
  | .awaitValue outer, token => stepValue outer token
  | .awaitFirstItem outer, .closeArray => some (.complete (.array []) outer)
  | .awaitFirstItem outer, token => stepValue (.array [] :: outer) token
  | .awaitFirstKey outer, .closeObject => some (.complete (.object []) outer)
  | .awaitFirstKey outer, token => stepKey [] outer token
  | .awaitKey fields outer, token => stepKey fields outer token
  | .awaitColon fields key outer, .colon => some (.awaitValue (.object fields key :: outer))
  | .awaitColon _ _ _, _ => none
  | .complete value (.array items :: outer), .comma =>
      some (.awaitValue (.array (value :: items) :: outer))
  | .complete value (.array items :: outer), .closeArray =>
      some (.complete (.array (value :: items).reverse) outer)
  | .complete value (.object fields key :: outer), .comma =>
      some (.awaitKey ((key, value) :: fields) outer)
  | .complete value (.object fields key :: outer), .closeObject =>
      some (.complete (ofFields ((key, value) :: fields).reverse) outer)
  | .complete _ _, _ => none

def read? (text : List Char) : Option Json := do
  match (← tokens? text).foldlM Assembly.step (.awaitValue []) with
  | some (.complete value []) => some value
  | _ => none

def readBytes? (bytes : Bytes) : Option Json := do
  read? (← Utf8.decode? bytes).toList

end DiffDigest.Json
