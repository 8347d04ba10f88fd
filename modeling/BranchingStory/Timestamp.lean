import BranchingStory.Decimal.Basic
import BranchingStory.Text.Blank

/-!
# Timestamps

A timestamp is a moment in coordinated universal time.  It is written by RFC 3339 with a `Z` and as
many groups of three fraction digits as it needs.  Reading is a little wider: blanks may stand
before each part, numbers may have fewer digits, and any offset from universal time is applied.
-/

namespace BranchingStory

/-- The seconds since the first moment of 1970 and the nanoseconds within the second.  A leap second
is the second before it with a thousand million nanoseconds more. -/
structure Timestamp where
  seconds : Int
  nanoseconds : Nat
deriving DecidableEq

namespace Timestamp

/-! ## Calendar -/

def isLeapYear (year : Int) : Bool :=
  year % 4 = 0 && (year % 100 ≠ 0 || year % 400 = 0)

def daysInMonth (year : Int) (month : Nat) : Nat :=
  if month = 2 then if isLeapYear year then 29 else 28
  else if month = 4 || month = 6 || month = 9 || month = 11 then 30
  else 31

/-- The days from the first day of 1970 to a date.  Years are counted from March, so that the leap
day is the last one. -/
def daysOfDate (year : Int) (month day : Nat) : Int :=
  let shifted : Int := if month ≤ 2 then year - 1 else year
  let era := shifted / 400
  let yearOfEra := shifted % 400
  let monthFromMarch : Int := (month + 9) % 12
  let dayOfYear := (153 * monthFromMarch + 2) / 5 + day - 1
  let dayOfEra := yearOfEra * 365 + yearOfEra / 4 - yearOfEra / 100 + dayOfYear
  era * 146097 + dayOfEra - 719468

/-- The year, month and day that lie a number of days after the first day of 1970. -/
def dateOfDays (days : Int) : Int × Nat × Nat :=
  let shifted := days + 719468
  let era := shifted / 146097
  let dayOfEra := shifted % 146097
  let yearOfEra := (dayOfEra - dayOfEra / 1460 + dayOfEra / 36524 - dayOfEra / 146096) / 365
  let dayOfYear := dayOfEra - (365 * yearOfEra + yearOfEra / 4 - yearOfEra / 100)
  let monthFromMarch := (5 * dayOfYear + 2) / 153
  let day := dayOfYear - (153 * monthFromMarch + 2) / 5 + 1
  let month := if monthFromMarch < 10 then monthFromMarch + 3 else monthFromMarch - 9
  let year := yearOfEra + era * 400
  (if month ≤ 2 then year + 1 else year, month.toNat, day.toNat)

/-- The years that dates may have. -/
def isYear (year : Int) : Bool := -262143 ≤ year && year ≤ 262142

/-! ## Writing -/

/-- At least `width` digits, filled with zeros in front. -/
def padded (width value : Nat) : List Char :=
  let row := Decimal.digits value
  List.replicate (width - row.length) '0' ++ row

def yearText (year : Int) : List Char :=
  if 0 ≤ year && year ≤ 9999 then padded 4 year.toNat
  else (if year < 0 then '-' else '+') :: padded 4 year.natAbs

/-- The hour, minute and second of the day; a leap second is second 60. -/
def clockText (timestamp : Timestamp) : List Char :=
  let ofDay := (timestamp.seconds % 86400).toNat
  let second := ofDay % 60 + timestamp.nanoseconds / 1000000000
  padded 2 (ofDay / 3600) ++ ':' :: padded 2 (ofDay / 60 % 60) ++ ':' :: padded 2 second

def fractionText (timestamp : Timestamp) : List Char :=
  let fraction := timestamp.nanoseconds % 1000000000
  if fraction = 0 then []
  else if fraction % 1000000 = 0 then '.' :: padded 3 (fraction / 1000000)
  else if fraction % 1000 = 0 then '.' :: padded 6 (fraction / 1000)
  else '.' :: padded 9 fraction

def toText (timestamp : Timestamp) : String :=
  let (year, month, day) := dateOfDays (timestamp.seconds / 86400)
  String.ofList
    (yearText year ++ '-' :: padded 2 month ++ '-' :: padded 2 day ++ 'T' :: timestamp.clockText ++
      timestamp.fractionText ++ ['Z'])

/-! ## Reading -/

/-- One to `width` digits. -/
def readDigits (width : Nat) (text : List Char) : Option (Nat × List Char) :=
  let row := (text.take width).takeWhile Decimal.isDigit
  if row.isEmpty then none else some (Decimal.valueOfDigits row, text.drop row.length)

/-- A number of at most `width` digits in a range, after blanks. -/
def readField (width lowest highest : Nat) (text : List Char) : Option (Nat × List Char) := do
  let (value, rest) ← readDigits width (Text.dropBlanks text)
  if lowest ≤ value ∧ value ≤ highest then some (value, rest) else none

/-- A year: up to four digits, or any number of digits after a sign. -/
def readYear (text : List Char) : Option (Int × List Char) := do
  match Text.dropBlanks text with
  | '-' :: rest =>
      let (value, rest) ← readDigits rest.length rest
      some (-(value : Int), rest)
  | '+' :: rest =>
      let (value, rest) ← readDigits rest.length rest
      some ((value : Int), rest)
  | rest =>
      let (value, rest) ← readDigits 4 rest
      some ((value : Int), rest)

/-- A mark, after blanks. -/
def readMark (mark : Char) (text : List Char) : Option (List Char) :=
  match Text.dropBlanks text with
  | first :: rest => if first = mark then some rest else none
  | [] => none

/-- Nanoseconds from the digits after a point; digits after the ninth are dropped. -/
def readFraction (text : List Char) : Option (Nat × List Char) :=
  match text with
  | '.' :: rest =>
      let row := rest.takeWhile Decimal.isDigit
      if row.isEmpty then none
      else
        let kept := row.take 9
        some (Decimal.valueOfDigits kept * Nat.pow 10 (9 - kept.length), rest.drop row.length)
  | _ => some (0, text)

/-- The seconds that the local time is ahead of universal time. -/
def readOffset (text : List Char) : Option (Int × List Char) :=
  match text with
  | 'Z' :: rest | 'z' :: rest => some (0, rest)
  | first :: second :: third :: rest =>
      if [first, second, third].map Char.toUpper = ['U', 'T', 'C'] then some (0, rest)
      else do
        let negative ←
          if first = '+' then some false
          else if first = '-' || first = '−' then some true
          else none
        guard (Decimal.isDigit second && Decimal.isDigit third)
        let hours := Decimal.valueOfDigits [second, third]
        match rest.dropWhile fun character => character = ':' || Text.isBlank character with
        | tens :: ones :: rest =>
            guard (Decimal.isDigit tens && Decimal.isDigit ones)
            let minutes := Decimal.valueOfDigits [tens, ones]
            guard (minutes < 60 && hours < 24)
            let ahead : Int := hours * 3600 + minutes * 60
            some (if negative then -ahead else ahead, rest)
        | _ => none
  | _ => none

/-- Reads a timestamp; impossible dates and times are refused. -/
def ofText? (text : String) : Option Timestamp := do
  let (year, rest) ← readYear text.toList
  let rest ← readMark '-' rest
  let (month, rest) ← readField 2 1 12 rest
  let rest ← readMark '-' rest
  let (day, rest) ← readField 2 1 31 rest
  guard (isYear year && day ≤ daysInMonth year month)
  let rest ←
    match rest with
    | 'T' :: rest | 't' :: rest | ' ' :: rest => some rest
    | _ => none
  let (hour, rest) ← readField 2 0 23 rest
  let rest ← readMark ':' rest
  let (minute, rest) ← readField 2 0 59 rest
  let rest ← readMark ':' rest
  let (second, rest) ← readField 2 0 60 rest
  let (fraction, rest) ← readFraction rest
  let (ahead, rest) ← readOffset (Text.dropBlanks rest)
  guard (Text.dropBlanks rest).isEmpty
  let leap := if second = 60 then 1 else 0
  let seconds :=
    daysOfDate year month day * 86400 + hour * 3600 + minute * 60 + (second - leap : Nat) - ahead
  guard (isYear (dateOfDays (seconds / 86400)).1)
  return { seconds, nanoseconds := fraction + leap * 1000000000 }

end Timestamp

end BranchingStory
