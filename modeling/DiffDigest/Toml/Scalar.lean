import DiffDigest.Text.Split
import DiffDigest.Toml.Moment
import DiffDigest.Toml.Value

/-!
# TOML scalars

What a value without quotes stands for: a truth value, a number, a date or a
time.  Underscores may stand between digits.
-/

namespace DiffDigest.Toml.Scalar

def ungrouped? (isDigit : Char → Bool) (text : List Char) : Option (List Char) :=
  let groups := Text.splitOn '_' text
  if groups.all fun group => !group.isEmpty && group.all isDigit then some groups.flatten
  else none

def isDigitBelow (base : Nat) (c : Char) : Bool :=
  match Text.hexValue? c with
  | some value => value < base
  | none => false

def valueOf (base : Nat) (digits : List Char) : Nat :=
  digits.foldl (fun total c => total * base + (Text.hexValue? c).getD 0) 0

/-- A number in decimal digits; one of several digits does not begin with zero. -/
def decimal? (text : List Char) : Option (List Char) :=
  match ungrouped? Char.isDigit text with
  | some ('0' :: _ :: _) => none
  | digits => digits

def sign (text : List Char) : Bool × List Char :=
  match text with
  | '-' :: rest => (true, rest)
  | '+' :: rest => (false, rest)
  | _ => (false, text)

/-- A whole number; other bases than ten go without a sign. -/
def integer? (text : List Char) : Option Int :=
  let natural (base : Nat) (text : List Char) : Option Int :=
    (ungrouped? (isDigitBelow base) text).map fun digits => (valueOf base digits : Int)
  match text with
  | '0' :: 'x' :: rest => natural 16 rest
  | '0' :: 'o' :: rest => natural 8 rest
  | '0' :: 'b' :: rest => natural 2 rest
  | _ =>
      let (negative, rest) := sign text
      (decimal? rest).map fun digits =>
        let value : Int := valueOf 10 digits
        if negative then -value else value

def cut (isMark : Char → Bool) (text : List Char) : List Char × Option (List Char) :=
  match text.dropWhile fun c => !isMark c with
  | [] => (text, none)
  | _ :: behind => (text.takeWhile fun c => !isMark c, some behind)

/-- The float with these digits times a power of ten, unless it is too large. -/
def decimalFloat? (digits : List Char) (exponent : Int) : Option Float :=
  let value := valueOf 10 digits
  let size : Int := exponent + (digits.length : Int)
  if value = 0 || size < -400 then some 0
  else if 400 < exponent then none
  else
    let float := Float.ofScientific value (exponent < 0) exponent.natAbs
    if float.isInf then none else some float

def exponent? : Option (List Char) → Option Int
  | none => some 0
  | some text =>
      let (negative, rest) := sign text
      (ungrouped? Char.isDigit rest).map fun digits =>
        let value : Int := valueOf 10 digits
        if negative then -value else value

/-- A float; it has a fraction or an exponent, or it is one of two names. -/
def float? (text : List Char) : Option (Option Float) :=
  let (negative, rest) := sign text
  let signed (x : Float) : Float := if negative then -x else x
  if rest = ['i', 'n', 'f'] then some (some (signed (1.0 / 0.0)))
  else if rest = ['n', 'a', 'n'] then some (some (0.0 / 0.0))
  else do
    let (mantissa, power) := cut (fun c => c = 'e' || c = 'E') rest
    let (whole, fraction) := cut (· = '.') mantissa
    if power.isNone && fraction.isNone then none
    let whole ← decimal? whole
    let fraction ← match fraction with
      | none => some []
      | some text => ungrouped? Char.isDigit text
    let exponent ← exponent? power
    pure ((decimalFloat? (whole ++ fraction) (exponent - (fraction.length : Int))).map signed)

def read? (word : List Char) : Option Value :=
  if word = "true".toList then some (.boolean true)
  else if word = "false".toList then some (.boolean false)
  else if Moment.isMoment word then some (.moment (String.ofList word))
  else match integer? word with
    | some value => some (.integer value)
    | none => (float? word).map .float

end DiffDigest.Toml.Scalar
