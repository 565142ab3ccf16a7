import Provisioner.Text.Blank

/-!
# Points in time

A point in time is kept to the whole second. It is read from a date, a time and an offset, with
white space permitted around the parts, and written in universal time; the second of a minute may be
60, a leap second.
-/

namespace Provisioner

/-- A minute, counted from the start of 1970 in universal time, and a second of it. -/
structure Timestamp where
  minute : Int
  second : Nat
  deriving DecidableEq, Repr, Inhabited

namespace Timestamp

/-- The days from the start of 1970 to a day of the proleptic calendar. -/
def daysOfDate (year month day : Int) : Int :=
  let y := if month ≤ 2 then year - 1 else year
  let era := y.fdiv 400
  let yearOfEra := y - era * 400
  let dayOfYear := (153 * ((month + 9) % 12) + 2) / 5 + day - 1
  let dayOfEra := yearOfEra * 365 + yearOfEra / 4 - yearOfEra / 100 + dayOfYear
  era * 146097 + dayOfEra - 719468

/-- Year, month and day of a number of days from the start of 1970. -/
def dateOfDays (days : Int) : Int × Int × Int :=
  let z := days + 719468
  let era := z.fdiv 146097
  let dayOfEra := z - era * 146097
  let yearOfEra := (dayOfEra - dayOfEra / 1460 + dayOfEra / 36524 - dayOfEra / 146096) / 365
  let dayOfYear := dayOfEra - (365 * yearOfEra + yearOfEra / 4 - yearOfEra / 100)
  let m := (5 * dayOfYear + 2) / 153
  let month := if m < 10 then m + 3 else m - 9
  let year := yearOfEra + era * 400 + (if month ≤ 2 then 1 else 0)
  (year, month, dayOfYear - (153 * m + 2) / 5 + 1)

def isLeapYear (year : Int) : Bool := year % 4 == 0 && (year % 100 != 0 || year % 400 == 0)

def daysOfMonth (year month : Int) : Int :=
  if month = 2 then (if isLeapYear year then 29 else 28)
  else if month = 4 ∨ month = 6 ∨ month = 9 ∨ month = 11 then 30
  else 31

/-- The years that a date may have. -/
def yearInRange (year : Int) : Bool := -262143 ≤ year && year ≤ 262142

/-! ### Reading -/

abbrev Scan := StateT (List Char) Option

def blanks : Scan Unit := modify fun cs => cs.dropWhile Text.isBlank

def literal (c : Char) : Scan Unit := do
  match ← get with
  | c' :: rest => if c' = c then set rest else failure
  | [] => failure

def isDecimal (c : Char) : Bool := '0' ≤ c && c ≤ '9'

def numberOf (cs : List Char) : Nat := cs.foldl (fun n c => 10 * n + (c.toNat - 48)) 0

/-- A number of one digit or more, of which at most `limit` are read. -/
def number (limit : Nat) : Scan Nat := do
  let cs ← get
  let digits := (cs.take limit).takeWhile isDecimal
  if digits.isEmpty then failure
  set (cs.drop digits.length)
  return numberOf digits

/-- A year: with a sign it may have any number of digits. -/
def year : Scan Int := do
  blanks
  let cs ← get
  match cs with
  | '-' :: rest => do
    set rest
    return -(← number rest.length : Int)
  | '+' :: rest => do
    set rest
    return (← number rest.length : Int)
  | _ => return (← number 4 : Int)

/-- A number of one or two digits after white space. -/
def part : Scan Nat := do
  blanks
  number 2

/-- A part that comes after white space and a separator. -/
def partAfter (separator : Char) : Scan Nat := do
  blanks
  literal separator
  part

/-- A fraction of a second, which is not kept. -/
def fraction : Scan Unit := do
  match ← get with
  | '.' :: rest =>
    let digits := rest.takeWhile isDecimal
    if digits.isEmpty then failure
    set (rest.drop digits.length)
  | _ => pure ()

def twoDigits : Scan Nat := do
  match ← get with
  | a :: b :: rest =>
    if isDecimal a && isDecimal b then
      set rest
      return numberOf [a, b]
    else failure
  | _ => failure

/-- Hours and minutes of an offset as minutes. -/
def offsetMinutes : Scan Int := do
  let hours ← twoDigits
  modify fun cs => cs.dropWhile fun c => c = ':' || Text.isBlank c
  let minutes ← twoDigits
  if minutes > 59 || hours > 23 then failure
  return hours * 60 + minutes

/-- The offset from universal time in minutes. -/
def offset : Scan Int := do
  blanks
  let cs ← get
  let isLetter (c : Char) (upper lower : Char) : Bool := c = upper || c = lower
  match cs with
  | c :: rest =>
    if isLetter c 'Z' 'z' then
      set rest
      return 0
    else if c = '+' then
      set rest
      offsetMinutes
    else if c = '-' || c = '\u2212' then
      set rest
      return -(← offsetMinutes)
    else
      match cs with
      | u :: t :: d :: rest =>
        if isLetter u 'U' 'u' && isLetter t 'T' 't' && isLetter d 'C' 'c' then
          set rest
          return 0
        else failure
      | _ => failure
  | [] => failure

/-- What separates a date from a time. -/
def dateTimeSeparator : Scan Unit := do
  match ← get with
  | c :: rest => if c = 'T' || c = 't' || c = ' ' then set rest else failure
  | [] => failure

def whole : Scan Timestamp := do
  let year ← year
  let month ← partAfter '-'
  let day ← partAfter '-'
  dateTimeSeparator
  let hour ← part
  let minute ← partAfter ':'
  let second ← partAfter ':'
  fraction
  blanks
  let offset ← offset
  blanks
  if !(← get).isEmpty then failure
  if !yearInRange year || month = 0 || month > 12 || day = 0 || day > daysOfMonth year month then
    failure
  if hour > 23 || minute > 59 || second > 60 then failure
  let minute := daysOfDate year month day * 1440 + hour * 60 + minute - offset
  if !yearInRange (dateOfDays (minute.fdiv 1440)).1 then failure
  return ⟨minute, second⟩

/-- The point in time of a text. -/
def parse? (s : String) : Option Timestamp := (whole s.toList).map (·.1)

/-! ### Writing -/

/-- A number with zeros before it up to some width. -/
def padded (width n : Nat) : String :=
  let digits := toString n
  String.ofList (List.replicate (width - digits.length) '0') ++ digits

/-- A year: of four digits, or with a sign if it needs more or comes before the year zero. -/
def yearText (year : Int) : String :=
  if 0 ≤ year ∧ year ≤ 9999 then padded 4 year.toNat
  else (if year < 0 then "-" else "+") ++ padded 4 year.natAbs

/-- The text of a point in time, in universal time. -/
def text (t : Timestamp) : String :=
  let days := t.minute.fdiv 1440
  let rest := (t.minute - days * 1440).toNat
  let (year, month, day) := dateOfDays days
  yearText year ++ "-" ++ padded 2 month.toNat ++ "-" ++ padded 2 day.toNat ++ "T" ++
    padded 2 (rest / 60) ++ ":" ++ padded 2 (rest % 60) ++ ":" ++ padded 2 t.second ++ "Z"

end Timestamp

end Provisioner
