import DiffDigest.Text.Digit

/-!
# TOML tokens

A text is cut into tokens, one character at a time.  Comments are left out.
Blanks are tokens of their own, because some marks must stand close together.
A string token carries the string that it stands for.
-/

namespace DiffDigest.Toml

inductive Token where
  | dot
  | equals
  | comma
  | openSquare
  | closeSquare
  | openCurly
  | closeCurly
  | blank (c : Char)
  | newline
  | word (chars : List Char)
  /-- A string; a long one is written between tripled quotes. -/
  | text (value : String) (long : Bool)

def Token.mark? (c : Char) : Option Token :=
  match c with
  | '.' => some .dot
  | '=' => some .equals
  | ',' => some .comma
  | '[' => some .openSquare
  | ']' => some .closeSquare
  | '{' => some .openCurly
  | '}' => some .closeCurly
  | ' ' | '\t' => some (.blank c)
  | '\n' => some .newline
  | _ => none

/-! ## Strings -/

inductive Content where
  | plain
  | escape
  /-- In the hexadecimal digits of a code point, so many of which are missing. -/
  | code (missing value : Nat)
  /-- Between a backslash and the end of its line. -/
  | lineRest
  /-- Behind such a line, where blanks and line ends are skipped. -/
  | lineStart

namespace Content

def escaped? (c : Char) : Option Char :=
  match c with
  | 'b' => some '\x08'
  | 't' => some '\t'
  | 'n' => some '\n'
  | 'f' => some '\x0C'
  | 'r' => some '\r'
  | 'e' => some '\x1B'
  | '"' => some '"'
  | '\\' => some '\\'
  | _ => none

def codeLength? (c : Char) : Option Nat :=
  match c with
  | 'x' => some 2
  | 'u' => some 4
  | 'U' => some 8
  | _ => none

def character? (value : Nat) : Option Char :=
  if value.isValidChar then some (Char.ofNat value) else none

def stepPlain (done : List Char) (c : Char) : Content × List Char :=
  if c = '\\' then (.escape, done) else (.plain, c :: done)

/-- Take the character behind a backslash; only a long string may break its line there. -/
def stepEscape (long : Bool) (done : List Char) (c : Char) : Option (Content × List Char) :=
  match codeLength? c with
  | some length => some (.code length 0, done)
  | none =>
      if long && c = '\n' then some (.lineStart, done)
      else if long && (c = ' ' || c = '\t' || c = '\r') then some (.lineRest, done)
      else (escaped? c).map fun c => (.plain, c :: done)

def step (long : Bool) (state : Content × List Char) (c : Char) : Option (Content × List Char) :=
  let (content, done) := state
  match content with
  | .plain => some (stepPlain done c)
  | .escape => stepEscape long done c
  | .code missing value => do
      let value := value * 16 + (← Text.hexValue? c)
      if missing ≤ 1 then pure (.plain, (← character? value) :: done)
      else pure (.code (missing - 1) value, done)
  | .lineRest =>
      if c = '\n' then some (.lineStart, done)
      else if c = ' ' || c = '\t' || c = '\r' then some (.lineRest, done)
      else none
  | .lineStart =>
      if c = '\n' || c = ' ' || c = '\t' || c = '\r' then some (.lineStart, done)
      else some (stepPlain done c)

def unescape? (long : Bool) (content : List Char) : Option (List Char) :=
  match content.foldlM (step long) (.plain, []) with
  | some (.plain, done) | some (.lineStart, done) => some done.reverse
  | _ => none

end Content

/-- The content of a long string without the line end right behind its opening quotes. -/
def withoutFirstLineEnd : List Char → List Char
  | '\n' :: rest => rest
  | '\r' :: '\n' :: rest => rest
  | content => content

/-- The token of a string; only between double quotes there are escapes. -/
def Token.ofContent? (quote : Char) (long : Bool) (content : List Char) : Option Token := do
  let content := if long then withoutFirstLineEnd content else content
  let chars ← if quote = '"' then Content.unescape? long content else some content
  pure (.text (String.ofList chars) long)

/-! ## Cutting -/

/-- Where the cutting into tokens stands; characters stand last first. -/
inductive Scan where
  | between
  | word (chars : List Char)
  | comment
  | oneQuote (quote : Char)
  | twoQuotes (quote : Char)
  | short (quote : Char) (chars : List Char) (escaped : Bool)
  /-- In a long string, behind a run of its quotes. -/
  | long (quote : Char) (chars : List Char) (escaped : Bool) (run : Nat)

namespace Scan

abbrev State :=
  Scan × List Token

def isQuote (c : Char) : Bool :=
  c = '"' || c = '\''

def endsWord (c : Char) : Bool :=
  isQuote c || c = '#' || c = '\r' || (Token.mark? c).isSome

def stepBetween (done : List Token) (c : Char) : State :=
  if isQuote c then (.oneQuote c, done)
  else if c = '#' then (.comment, done)
  else if c = '\r' then (.between, done)
  else match Token.mark? c with
    | some token => (.between, token :: done)
    | none => (.word [c], done)

def stepShort (quote : Char) (chars : List Char) (escaped : Bool) (done : List Token)
    (c : Char) : Option State :=
  if c = '\n' || c = '\r' then none
  else if escaped then some (.short quote (c :: chars) false, done)
  else if c = quote then
    (Token.ofContent? quote false chars.reverse).map fun token => (.between, token :: done)
  else some (.short quote (c :: chars) (quote = '"' && c = '\\'), done)

/-- The token of a long string whose last three characters are its closing quotes. -/
def closeLong? (quote : Char) (chars : List Char) : Option Token :=
  Token.ofContent? quote true (chars.drop 3).reverse

/-- Take a character of a long string; of a run of quotes the last three close it. -/
def stepLong (quote : Char) (chars : List Char) (escaped : Bool) (run : Nat)
    (done : List Token) (c : Char) : Option State :=
  if escaped then some (.long quote (c :: chars) false 0, done)
  else if c = quote then
    if run = 4 then (closeLong? quote (c :: chars)).map fun token => (.between, token :: done)
    else some (.long quote (c :: chars) false (run + 1), done)
  else if 3 ≤ run then (closeLong? quote chars).map fun token => stepBetween (token :: done) c
  else some (.long quote (c :: chars) (quote = '"' && c = '\\') 0, done)

def step (state : State) (c : Char) : Option State :=
  let (scan, done) := state
  match scan with
  | .between => some (stepBetween done c)
  | .word chars =>
      if endsWord c then some (stepBetween (.word chars.reverse :: done) c)
      else some (.word (c :: chars), done)
  | .comment => if c = '\n' then some (stepBetween done c) else some (.comment, done)
  | .oneQuote quote =>
      if c = quote then some (.twoQuotes quote, done) else stepShort quote [] false done c
  | .twoQuotes quote =>
      if c = quote then some (.long quote [] false 0, done)
      else some (stepBetween (.text "" false :: done) c)
  | .short quote chars escaped => stepShort quote chars escaped done c
  | .long quote chars escaped run => stepLong quote chars escaped run done c

end Scan

def isTextChar (c : Char) : Bool :=
  c = '\t' || c = '\n' || c = '\r' || (0x20 ≤ c.toNat && c.toNat ≠ 0x7F)

def lineEndsWell : List Char → Bool
  | [] => true
  | '\r' :: '\n' :: rest => lineEndsWell rest
  | c :: rest => c ≠ '\r' && lineEndsWell rest

def tokens? (text : List Char) : Option (List Token) :=
  let text := match text with
    | '\uFEFF' :: rest => rest
    | _ => text
  if text.all isTextChar && lineEndsWell text then
    match (text ++ ['\n']).foldlM Scan.step (.between, []) with
    | some (.between, done) => some done.reverse
    | _ => none
  else none

end DiffDigest.Toml
