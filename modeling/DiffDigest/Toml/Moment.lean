import DiffDigest.Text.Digit

/-!
# Dates and times

A date and a time are joined by the letter T or by one blank; behind both an
offset may stand.  Seconds may be left out.
-/

namespace DiffDigest.Toml.Moment

def digits? (count : Nat) (text : List Char) : Option (Nat × List Char) :=
  if (text.take count).length = count then
    (Text.decimal? (text.take count)).map fun value => (value, text.drop count)
  else none

def after? (expected : Char) : List Char → Option (List Char)
  | c :: rest => if c = expected then some rest else none
  | [] => none

def isLeapYear (year : Nat) : Bool :=
  (year % 4 = 0 && year % 100 ≠ 0) || year % 400 = 0

def daysInMonth (year month : Nat) : Nat :=
  if month = 2 then if isLeapYear year then 29 else 28
  else if month = 4 || month = 6 || month = 9 || month = 11 then 30
  else 31

def date? (text : List Char) : Option (List Char) := do
  let (year, rest) ← digits? 4 text
  let (month, rest) ← digits? 2 (← after? '-' rest)
  let (day, rest) ← digits? 2 (← after? '-' rest)
  if 1 ≤ month && month ≤ 12 && 1 ≤ day && day ≤ daysInMonth year month then pure rest
  else none

/-- What follows the seconds of a time, which may be left out and may have a fraction. -/
def seconds? (text : List Char) : Option (List Char) :=
  match text with
  | ':' :: rest => do
      let (second, rest) ← digits? 2 rest
      if 60 < second then none
      match rest with
      | '.' :: fraction =>
          if (fraction.takeWhile Char.isDigit).isEmpty then none
          else pure (fraction.dropWhile Char.isDigit)
      | _ => pure rest
  | _ => some text

def time? (text : List Char) : Option (List Char) := do
  let (hour, rest) ← digits? 2 text
  let (minute, rest) ← digits? 2 (← after? ':' rest)
  if hour ≤ 23 && minute ≤ 59 then seconds? rest else none

/-- Whether a text is nothing or the offset of a time, at most one day. -/
def isOffset (text : List Char) : Bool :=
  match text with
  | [] => true
  | sign :: rest =>
      if sign = 'Z' || sign = 'z' then rest.isEmpty
      else if sign = '+' || sign = '-' then
        let valid : Option Bool := do
          let (hour, rest) ← digits? 2 rest
          let (minute, rest) ← digits? 2 (← after? ':' rest)
          pure (rest.isEmpty && minute ≤ 59 && hour * 60 + minute ≤ 24 * 60)
        valid.getD false
      else false

def isDate (text : List Char) : Bool :=
  date? text = some []

def isMoment (text : List Char) : Bool :=
  match date? text with
  | some [] => true
  | some (mark :: rest) =>
      (mark = 'T' || mark = 't' || mark = ' ') && ((time? rest).map isOffset).getD false
  | none => time? text = some []

end DiffDigest.Toml.Moment
