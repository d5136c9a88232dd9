/-!
# The shortest decimal of a binary float

A finite float stands for all reals that round to it.  Its shortest decimal is
the one with the fewest digits in that interval, and of several the nearest to
the float.  The search tries one digit, two digits, and so on; on each decimal
grid only the two neighbours of the float have to be tested.
-/

namespace DiffDigest.Decimal

def twoTo (n : Nat) : Nat :=
  Nat.pow 2 n

def tenTo (n : Nat) : Nat :=
  Nat.pow 10 n

/-- A magnitude `mantissa * 2 ^ exponent`; the exponent may be negative. -/
structure Binary where
  mantissa : Nat
  exponent : Int
  /-- Whether the next smaller float is only half as far away as the next larger one. -/
  narrow : Bool

def Binary.ofBits (bits : UInt64) : Binary :=
  let fraction := bits.toNat % twoTo 52
  let exponent : Nat := bits.toNat / twoTo 52 % twoTo 11
  if exponent = 0 then
    ⟨fraction, -1074, false⟩
  else
    ⟨fraction + twoTo 52, (exponent : Int) - 1075, fraction = 0 && exponent > 1⟩

/-- A decimal `digits * 10 ^ exponent`. -/
structure Scientific where
  digits : Nat
  exponent : Int
deriving DecidableEq, Repr

def digitCount (n : Nat) : Nat :=
  (Nat.toDigits 10 n).length

/-- The float and the ends of its interval, over one denominator. -/
structure Interval where
  low : Nat
  value : Nat
  high : Nat
  denominator : Nat
  closed : Bool

/-- Four units of the last place, so that halves and quarters are whole. -/
def Interval.ofBinary (x : Binary) : Interval :=
  let scale := if x.exponent ≥ 2 then twoTo (x.exponent - 2).toNat else 1
  let denominator := if x.exponent ≥ 2 then 1 else twoTo (2 - x.exponent).toNat
  { low := (4 * x.mantissa - (if x.narrow then 1 else 2)) * scale
    value := 4 * x.mantissa * scale
    high := (4 * x.mantissa + 2) * scale
    denominator
    closed := x.mantissa % 2 = 0 }

def Interval.inUnits (i : Interval) (unit : Int) : Interval :=
  if unit ≥ 0 then
    { i with denominator := i.denominator * tenTo unit.toNat }
  else
    let factor := tenTo (-unit).toNat
    { i with low := i.low * factor, value := i.value * factor, high := i.high * factor }

def Interval.holds (i : Interval) (n : Nat) : Bool :=
  let scaled := n * i.denominator
  if i.closed then i.low ≤ scaled && scaled ≤ i.high else i.low < scaled && scaled < i.high

/-- The nearest whole number of units that lies in the interval; a tie goes to the even one. -/
def Interval.nearest? (i : Interval) : Option Nat :=
  let below := i.value / i.denominator
  let rest := i.value % i.denominator
  let down := if i.holds below then some below else none
  let up := if i.holds (below + 1) then some (below + 1) else none
  let upward := 2 * rest > i.denominator || (2 * rest == i.denominator && below % 2 == 1)
  if upward then up.or down else down.or up

/-- The least `k` with `value < 10 ^ k`. -/
def Interval.magnitude (i : Interval) : Int :=
  let guess : Int := (digitCount i.value : Int) - digitCount i.denominator
  let reached :=
    if guess ≥ 0 then i.denominator * tenTo guess.toNat ≤ i.value
    else i.denominator ≤ i.value * tenTo (-guess).toNat
  if reached then guess + 1 else guess

/-- Move trailing zeros of the digits into the exponent; `fuel` bounds their number. -/
def Scientific.normalize : Nat → Scientific → Scientific
  | 0, x => x
  | fuel + 1, x =>
      if x.digits ≠ 0 && x.digits % 10 = 0 then
        normalize fuel ⟨x.digits / 10, x.exponent + 1⟩
      else x

/-- The shortest decimal of a positive magnitude; seventeen digits always suffice. -/
def shortest (x : Binary) : Scientific :=
  let i := Interval.ofBinary x
  let magnitude := i.magnitude
  let candidates := (List.range 17).filterMap fun n =>
    let unit := magnitude - (n + 1 : Nat)
    ((i.inUnits unit).nearest?).map (Scientific.mk · unit)
  Scientific.normalize 20 (candidates.headD ⟨0, 0⟩)

end DiffDigest.Decimal
