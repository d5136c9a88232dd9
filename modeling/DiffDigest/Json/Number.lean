import DiffDigest.Decimal.Shortest
import DiffDigest.Json.Value
import DiffDigest.Text.Digit
import DiffDigest.Word

/-!
# JSON numbers

A number is read digit by digit into 64 bits; the first digit that no longer
fits, and what follows it before the point, only counts as a power of ten.
The value is then scaled by powers of ten, each step rounded once.  A result
that is no finite float is no number.
-/

namespace DiffDigest.Json

/-- Append digits while the total stays below `2 ^ 64`; also count the digits taken. -/
def accumulate (total taken : Nat) : List Nat → Nat × Nat
  | [] => (total, taken)
  | digit :: rest =>
      if total * 10 + digit < Word.size64 then accumulate (total * 10 + digit) (taken + 1) rest
      else (total, taken)

/-- Digits with a power of ten. -/
structure Scaled where
  digits : Nat
  exponent : Int

def tenTo (exponent : Nat) : Float :=
  Float.ofScientific 1 false exponent

/-- Divide by `10 ^ exponent` in steps of at most `10 ^ 308`. -/
def divideByTenTo (value : Float) (exponent : Nat) : Float :=
  if exponent ≤ 308 then value / tenTo exponent
  else if value == 0 then value
  else divideByTenTo (value / tenTo 308) (exponent - 308)
termination_by exponent

def Scaled.toFloat? (x : Scaled) : Option Float :=
  let value := x.digits.toUInt64.toFloat
  if x.exponent < 0 then some (divideByTenTo value x.exponent.natAbs)
  else if x.exponent ≤ 308 then
    let scaled := value * tenTo x.exponent.toNat
    if scaled.isInf then none else some scaled
  else if value == 0 then some value
  else none

def leadingDigits (text : List Char) : List Nat × List Char :=
  ((text.takeWhile Char.isDigit).map fun c => c.toNat - '0'.toNat, text.dropWhile Char.isDigit)

def exponent? (text : List Char) : Option (Bool × List Nat) :=
  let (negative, text) := match text with
    | '-' :: rest => (true, rest)
    | '+' :: rest => (false, rest)
    | _ => (false, text)
  match leadingDigits text with
  | (digit :: digits, []) => some (negative, digit :: digits)
  | _ => none

/-- Apply a written exponent; one of `2 ^ 31` or more only goes with zero or toward zero. -/
def Scaled.withExponent? (x : Scaled) (negative : Bool) (digits : List Nat) : Option Float :=
  let size : Nat := digits.foldl (fun total digit => total * 10 + digit) 0
  if size < Word.half32 then
    let shift : Int := if negative then -size else size
    Scaled.toFloat? ⟨x.digits, x.exponent + shift⟩
  else if x.digits = 0 || negative then some 0
  else none

def fractional? (x : Scaled) (text : List Char) : Option Float :=
  match text with
  | [] => x.toFloat?
  | '.' :: rest =>
      match leadingDigits rest with
      | ([], _) => none
      | (digits, rest) =>
          let (total, taken) := accumulate x.digits 0 digits
          let x : Scaled := ⟨total, x.exponent - taken⟩
          match rest with
          | [] => x.toFloat?
          | mark :: rest =>
              if mark = 'e' || mark = 'E' then do
                let (negative, size) ← exponent? rest
                x.withExponent? negative size
              else none
  | mark :: rest =>
      if mark = 'e' || mark = 'E' then do
        let (negative, size) ← exponent? rest
        x.withExponent? negative size
      else none

def unsigned? (negative : Bool) (text : List Char) : Option Json :=
  let float (value : Float) : Json := .float (if negative then -value else value)
  match leadingDigits text with
  | ([], _) => none
  | (0 :: _ :: _, _) => none
  | (digits, rest) =>
      let (total, taken) := accumulate 0 0 digits
      let dropped := digits.length - taken
      if rest.isEmpty && dropped = 0 then
        if negative then
          if total = 0 || Word.half64 < total then some (float total.toUInt64.toFloat)
          else some (.integer (-total))
        else some (.integer total)
      else (fractional? ⟨total, dropped⟩ rest).map float

def number? (text : List Char) : Option Json :=
  match text with
  | '-' :: rest => unsigned? true rest
  | _ => unsigned? false text

/-- Digits with a point before the digit at `position`, which may lie outside of them. -/
def pointed (digits : List Char) (position : Int) : List Char :=
  if position ≤ 0 then
    ['0', '.'] ++ List.replicate position.natAbs '0' ++ digits
  else if digits.length ≤ position.toNat then
    digits ++ List.replicate (position.toNat - digits.length) '0' ++ ['.', '0']
  else
    digits.take position.toNat ++ '.' :: digits.drop position.toNat

/-- A positive decimal: positional from `10 ^ -5` to below `10 ^ 16`, with an exponent outside. -/
def decimalText (x : Decimal.Scientific) : List Char :=
  let digits := Nat.toDigits 10 x.digits
  let position := (digits.length : Int) + x.exponent
  if -5 < position && position ≤ 16 then pointed digits position
  else
    (match digits with
      | first :: second :: rest => first :: '.' :: second :: rest
      | _ => digits) ++ 'e' :: (toString (position - 1)).toList

/-- The text of a finite float; anything else has no number and is written as `null`. -/
def floatText (value : Float) : String :=
  let bits := value.toBits
  let sign := if bits ≥ 0x8000000000000000 then ['-'] else []
  let magnitude := bits &&& 0x7FFFFFFFFFFFFFFF
  if magnitude ≥ 0x7FF0000000000000 then "null"
  else if magnitude = 0 then String.ofList (sign ++ ['0', '.', '0'])
  else String.ofList (sign ++ decimalText (Decimal.shortest (.ofBits magnitude)))

end DiffDigest.Json
