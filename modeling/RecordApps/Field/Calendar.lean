import RecordApps.Decimal.Reader
import RecordApps.Text.Blank

/-! # Dates and times as text

Dates are written `year-month-day`, times `hour:minute` with optional seconds, and points in
time in the strict form of internet timestamps. All of them name a day or a time that
exists; the 60th second of a minute may be a leap second.
-/

namespace RecordApps.Calendar

/-- Something read off the front of a text, and the text behind it. -/
abbrev Step (α : Type) := List Char → Option (α × List Char)

/-- A number of at least `least` and at most `most` digits. -/
def digits? (least most : Nat) : Step Nat := fun cs =>
  let run := (cs.takeWhile Char.isDigit).take most
  if run.length < least then none else some (Decimal.ofDigits run, cs.drop run.length)

/-- A number of one or two digits, white space in front of it skipped. -/
def loose? : Step Nat := fun cs =>
  digits? 1 2 (Text.trimStart cs)

def char? (expected : Char) : List Char → Option (List Char)
  | c :: rest => if c = expected then some rest else none
  | [] => none

/-- A year: a sign and any number of digits, or up to four digits. -/
def year? : Step Int := fun cs =>
  match Text.trimStart cs with
  | '-' :: rest => (digits? 1 rest.length rest).map fun (n, rest) => (-(n : Int), rest)
  | '+' :: rest => (digits? 1 rest.length rest).map fun (n, rest) => ((n : Int), rest)
  | rest => (digits? 1 4 rest).map fun (n, rest) => ((n : Int), rest)

/-- Whether a year has a 29th of February. -/
def isLeapYear (year : Int) : Bool :=
  year % 4 = 0 && (year % 100 ≠ 0 || year % 400 = 0)

def daysInMonth (year : Int) (month : Nat) : Nat :=
  match month with
  | 2 => if isLeapYear year then 29 else 28
  | 4 | 6 | 9 | 11 => 30
  | _ => 31

/-- Whether a day exists, within the years that can be counted. -/
def dayExists (year : Int) (month day : Nat) : Bool :=
  -262143 ≤ year && year ≤ 262142 && 1 ≤ month && month ≤ 12 && 1 ≤ day &&
    day ≤ daysInMonth year month

def timeExists (hour minute second : Nat) : Bool :=
  hour ≤ 23 && minute ≤ 59 && second ≤ 60

def isDate (cs : List Char) : Bool :=
  let date? : Option Bool := do
    let (year, rest) ← year? cs
    let (month, rest) ← loose? (← char? '-' rest)
    let (day, rest) ← loose? (← char? '-' rest)
    return rest.isEmpty && dayExists year month day
  date?.getD false

/-- Whether a text is a time of day with seconds. -/
def isTimeWithSeconds (cs : List Char) : Bool :=
  let time? : Option Bool := do
    let (hour, rest) ← loose? cs
    let (minute, rest) ← loose? (← char? ':' rest)
    let (second, rest) ← loose? (← char? ':' rest)
    return rest.isEmpty && timeExists hour minute second
  time?.getD false

/-- Whether a text is a time of day without seconds. -/
def isTimeOfMinutes (cs : List Char) : Bool :=
  let time? : Option Bool := do
    let (hour, rest) ← loose? cs
    let (minute, rest) ← loose? (← char? ':' rest)
    return rest.isEmpty && timeExists hour minute 0
  time?.getD false

def isTime (cs : List Char) : Bool :=
  isTimeWithSeconds cs || isTimeOfMinutes cs

/-- The end of a timestamp: `Z`, or a signed difference of hours and minutes. -/
def isOffset : List Char → Bool
  | [c] => c = 'Z' || c = 'z'
  | [sign, h1, h2, ':', m1, m2] =>
      (sign = '+' || sign = '-' || sign = '−') && [h1, h2, m1, m2].all Char.isDigit &&
        Decimal.ofDigits [h1, h2] ≤ 23 && Decimal.ofDigits [m1, m2] ≤ 59
  | _ => false

/-- The fraction of a second, if there is one. -/
def skipFraction? : List Char → Option (List Char)
  | '.' :: rest => (digits? 1 rest.length rest).map Prod.snd
  | rest => some rest

def isTimestamp (cs : List Char) : Bool :=
  let timestamp? : Option Bool := do
    let (year, rest) ← digits? 4 4 cs
    let (month, rest) ← digits? 2 2 (← char? '-' rest)
    let (day, rest) ← digits? 2 2 (← char? '-' rest)
    let rest ← match rest with
      | c :: rest => if c = 'T' ∨ c = 't' ∨ c = ' ' then some rest else none
      | [] => none
    let (hour, rest) ← digits? 2 2 rest
    let (minute, rest) ← digits? 2 2 (← char? ':' rest)
    let (second, rest) ← digits? 2 2 (← char? ':' rest)
    let rest ← skipFraction? rest
    return dayExists year month day && timeExists hour minute second && isOffset rest
  timestamp?.getD false

end RecordApps.Calendar
