import ItemAppraisal.Decimal.Reading
import ItemAppraisal.Text.Blank

/-!
# Points in time

Seconds since 1970 in universal time with a fraction in nanoseconds, the calendar date and time of day
they stand for, and their text. Dates follow the Gregorian calendar in both directions, with a year
zero; the years a date may have are bounded.
-/

namespace ItemAppraisal

/-- A point in time. A fraction of a second or more stands for the leap second after `seconds`. -/
structure Timestamp where
  seconds : Int
  nanos : Nat
  deriving DecidableEq, Repr, Inhabited

namespace Timestamp

/-- The start of 1970. -/
def epoch : Timestamp := ⟨0, 0⟩

/-! ## The calendar -/

/-- A calendar date. -/
structure Date where
  year : Int
  month : Nat
  day : Nat
  deriving DecidableEq, Repr

/-- The first year of a date. -/
def firstYear : Int := -262143

/-- The last year of a date. -/
def lastYear : Int := 262142

/-- A year with a 29th of February. -/
def isLeap (year : Int) : Bool :=
  year % 4 == 0 && (year % 100 != 0 || year % 400 == 0)

/-- The number of days of a month. -/
def daysInMonth (year : Int) (month : Nat) : Nat :=
  match month with
  | 2 => if isLeap year then 29 else 28
  | 4 | 6 | 9 | 11 => 30
  | _ => 31

/-- A date of the calendar within the bounds on years. -/
def Date.isValid (d : Date) : Bool :=
  firstYear ≤ d.year && d.year ≤ lastYear && 1 ≤ d.month && d.month ≤ 12 && 1 ≤ d.day &&
    d.day ≤ daysInMonth d.year d.month

/-- Days since the start of 1970. The year is counted from March, so that a leap day comes last. -/
def Date.toDays (d : Date) : Int :=
  let y := if d.month ≤ 2 then d.year - 1 else d.year
  let era := y.fdiv 400
  let yearOfEra := y - era * 400
  let month : Int := (d.month + 9) % 12
  let dayOfYear := (153 * month + 2) / 5 + d.day - 1
  let dayOfEra := yearOfEra * 365 + yearOfEra / 4 - yearOfEra / 100 + dayOfYear
  era * 146097 + dayOfEra - 719468

/-- The date that is a number of days after the start of 1970. -/
def Date.ofDays (days : Int) : Date :=
  let z := days + 719468
  let era := z.fdiv 146097
  let dayOfEra := z - era * 146097
  let yearOfEra := (dayOfEra - dayOfEra / 1460 + dayOfEra / 36524 - dayOfEra / 146096) / 365
  let dayOfYear := dayOfEra - (365 * yearOfEra + yearOfEra / 4 - yearOfEra / 100)
  let fromMarch := (5 * dayOfYear + 2) / 153
  let day := dayOfYear - (153 * fromMarch + 2) / 5 + 1
  let month := if fromMarch < 10 then fromMarch + 3 else fromMarch - 9
  let year := yearOfEra + era * 400 + (if month ≤ 2 then 1 else 0)
  ⟨year, month.toNat, day.toNat⟩

/-- The seconds of a day. -/
def daySeconds : Int := 86400

/-- The date of a point in time. -/
def date (t : Timestamp) : Date :=
  Date.ofDays (t.seconds.fdiv daySeconds)

/-- A number of seconds since 1970, or the start of 1970 if its date is out of bounds. -/
def ofSeconds (seconds : Int) : Timestamp :=
  if (Date.ofDays (seconds.fdiv daySeconds)).isValid then ⟨seconds, 0⟩ else epoch

/-! ## Writing -/

/-- A number with leading zeros up to a width. -/
def padded (width n : Nat) : List Char :=
  let text := Decimal.digits n
  List.replicate (width - text.length) '0' ++ text

/-- A year in four digits, and outside `0` to `9999` with a sign. -/
def yearText (year : Int) : List Char :=
  if 0 ≤ year && year ≤ 9999 then padded 4 year.toNat
  else (if year < 0 then '-' else '+') :: padded 4 year.natAbs

/-- A date as year, month and day. -/
def dateText (d : Date) : List Char :=
  yearText d.year ++ '-' :: padded 2 d.month ++ '-' :: padded 2 d.day

/-- The time of day with as many groups of three fraction digits as it needs. -/
def timeText (t : Timestamp) : List Char :=
  let ofDay := (t.seconds - t.seconds.fdiv daySeconds * daySeconds).toNat
  let second := ofDay % 60 + t.nanos / 1000000000
  let nanos := t.nanos % 1000000000
  let fraction :=
    if nanos == 0 then []
    else if nanos % 1000000 == 0 then '.' :: padded 3 (nanos / 1000000)
    else if nanos % 1000 == 0 then '.' :: padded 6 (nanos / 1000)
    else '.' :: padded 9 nanos
  padded 2 (ofDay / 3600) ++ ':' :: padded 2 (ofDay / 60 % 60) ++ ':' :: padded 2 second ++ fraction

/-- A point in time as a document shows it. -/
def documentText (t : Timestamp) : String :=
  String.ofList (dateText t.date ++ 'T' :: t.timeText ++ ['Z'])

/-- A point in time as a person reads it. -/
def display (t : Timestamp) : String :=
  String.ofList (dateText t.date ++ ' ' :: t.timeText ++ " UTC".toList)

/-! ## Reading -/

/-- Drops white space. -/
def skip (s : List Char) : List Char :=
  s.dropWhile Text.isBlank

/-- A number of at most `width` digits after white space. -/
def number? (width : Nat) (s : List Char) : Option (Nat × List Char) :=
  let s := skip s
  let row := (s.take width).takeWhile Char.isDigit
  if row.isEmpty then none else some (Decimal.value row, s.drop row.length)

/-- A year after white space: up to four digits, or a sign and any number of them. -/
def year? (s : List Char) : Option (Int × List Char) :=
  match skip s with
  | '-' :: rest => signedYear rest fun n => -n
  | '+' :: rest => signedYear rest fun n => n
  | s => (number? 4 s).map fun (n, rest) => (n, rest)
where
  /-- The digits after a sign. -/
  signedYear (s : List Char) (f : Int → Int) : Option (Int × List Char) :=
    let (row, rest) := s.span Char.isDigit
    if row.isEmpty then none else some (f (Decimal.value row), rest)

/-- What follows a mark, which may have white space before it. -/
def mark? (c : Char) (s : List Char) : Option (List Char) :=
  match skip s with
  | d :: rest => if d = c then some rest else none
  | [] => none

/-- The fraction of a second, cut off after nine digits; none without a point. -/
def fraction? : List Char → Option (Nat × List Char)
  | '.' :: s =>
    let (row, rest) := s.span Char.isDigit
    if row.isEmpty then none
    else
      let kept := row.take 9
      some (Decimal.value kept * Nat.pow 10 (9 - kept.length), rest)
  | s => some (0, s)

/-- A two-digit number. -/
def pair? : List Char → Option (Nat × List Char)
  | a :: b :: rest => (Decimal.natural? [a, b]).map (·, rest)
  | _ => none

/-- The distance of local from universal time in seconds, at the end of a text. -/
def offset? (s : List Char) : Option (Int × List Char) :=
  match s with
  | 'Z' :: rest | 'z' :: rest => some (0, rest)
  | '+' :: rest => distance rest 1
  | '-' :: rest => distance rest (-1)
  | c :: rest =>
    if c = Char.ofNat 0x2212 then distance rest (-1)
    else if (s.take 3).map Char.toUpper = "UTC".toList then some (0, s.drop 3)
    else none
  | [] => none
where
  /-- Hours and minutes, with or without separators between them. -/
  distance (s : List Char) (sign : Int) : Option (Int × List Char) := do
    let (hours, s) ← pair? s
    let (minutes, s) ← pair? (s.dropWhile fun c => c == ':' || Text.isBlank c)
    if minutes < 60 && hours < 24 then return (sign * (hours * 3600 + minutes * 60), s) else none

/-- Reads a date, the letter T or a blank, a time of day and an offset from universal time. The second
60 is the leap second after the second 59. -/
def read? (text : String) : Option Timestamp := do
  let s := text.toList
  let (year, s) ← year? s
  let s ← mark? '-' s
  let (month, s) ← number? 2 s
  let s ← mark? '-' s
  let (day, s) ← number? 2 s
  let s ← match s with
    | 'T' :: rest | 't' :: rest | ' ' :: rest => some rest
    | _ => none
  let (hour, s) ← number? 2 s
  let s ← mark? ':' s
  let (minute, s) ← number? 2 s
  let s ← mark? ':' s
  let (second, s) ← number? 2 s
  let (nanos, s) ← fraction? s
  let (offset, s) ← offset? (skip s)
  let day : Date := ⟨year, month, day⟩
  if (skip s).isEmpty && day.isValid && hour ≤ 23 && minute ≤ 59 && second ≤ 60 then
    let leap := second / 60
    let clock : Int := day.toDays * daySeconds + hour * 3600 + minute * 60 + (second - leap : Nat)
    let t : Timestamp := ⟨clock - offset, nanos + leap * 1000000000⟩
    if t.date.isValid then return t else none
  else none

end Timestamp

end ItemAppraisal
