import GrafanaInstall.Text.Blank

/-!
# Instants

A moment in UTC, to the second, as calendar fields. It is read from RFC 3339 text with any
offset and printed in UTC. A fraction of a second is dropped. Second 60 is a leap second.
-/

namespace GrafanaInstall

/-! ## The calendar -/

namespace Calendar

def isLeapYear (year : Int) : Bool :=
  year % 4 = 0 && (year % 100 ≠ 0 || year % 400 = 0)

def daysIn (year : Int) (month : Nat) : Nat :=
  if month = 2 then if isLeapYear year then 29 else 28
  else if month = 4 ∨ month = 6 ∨ month = 9 ∨ month = 11 then 30
  else 31

def isYear (year : Int) : Bool :=
  -262143 ≤ year && year ≤ 262142

def isDate (year : Int) (month day : Nat) : Bool :=
  isYear year && 1 ≤ month && month ≤ 12 && 1 ≤ day && day ≤ daysIn year month

def isTime (hour minute second : Nat) : Bool :=
  hour < 24 && minute < 60 && second ≤ 60

def previousDay (year : Int) (month day : Nat) : Int × Nat × Nat :=
  if 1 < day then (year, month, day - 1)
  else if 1 < month then (year, month - 1, daysIn year (month - 1))
  else (year - 1, 12, 31)

def nextDay (year : Int) (month day : Nat) : Int × Nat × Nat :=
  if day < daysIn year month then (year, month, day + 1)
  else if month < 12 then (year, month + 1, 1)
  else (year + 1, 1, 1)

end Calendar

structure Instant where
  year : Int
  month : Nat
  day : Nat
  hour : Nat
  minute : Nat
  second : Nat
  valid : Calendar.isDate year month day && Calendar.isTime hour minute second := by decide
  deriving DecidableEq

namespace Instant

def ofFields? (year : Int) (month day hour minute second : Nat) : Option Instant :=
  if h : Calendar.isDate year month day && Calendar.isTime hour minute second then
    some ⟨year, month, day, hour, minute, second, h⟩
  else none

/-- The instant of a local time that is `offset` minutes ahead of UTC, by less than a day. -/
def ofLocal? (year : Int) (month day hour minute second : Nat) (offset : Int) : Option Instant :=
  if Calendar.isDate year month day && Calendar.isTime hour minute second then
    let minutes : Int := 60 * hour + minute - offset
    let clock := (minutes % 1440).toNat
    let (year, month, day) :=
      if minutes < 0 then Calendar.previousDay year month day
      else if 1440 ≤ minutes then Calendar.nextDay year month day
      else (year, month, day)
    ofFields? year month day (clock / 60) (clock % 60) second
  else none

/-! ## Printing -/

/-- Decimal digits, filled up with zeros on the left. -/
def padded (width n : Nat) : List Char :=
  let digits := Nat.toDigits 10 n
  List.replicate (width - digits.length) '0' ++ digits

/-- A year of other than four digits carries a sign. -/
def yearText (year : Int) : List Char :=
  if 0 ≤ year ∧ year ≤ 9999 then padded 4 year.toNat
  else (if year < 0 then '-' else '+') :: padded 4 year.natAbs

def text (i : Instant) : String :=
  String.ofList (yearText i.year ++ ['-'] ++ padded 2 i.month ++ ['-'] ++ padded 2 i.day ++ ['T'] ++
    padded 2 i.hour ++ [':'] ++ padded 2 i.minute ++ [':'] ++ padded 2 i.second ++ ['Z'])

/-! ## Reading

Blanks may stand before each number and before each mark. Each reader gives back the rest. -/

def skipSpaces (text : List Char) : List Char :=
  text.dropWhile Text.isSpace

def number? (width : Nat) (text : List Char) : Option (Nat × List Char) :=
  match (text.take width).takeWhile Char.isDigit with
  | [] => none
  | digits => some (Nat.ofDigitChars 10 digits 0, text.drop digits.length)

/-- A year has at most four digits, or a sign and any number of digits. -/
def year? (text : List Char) : Option (Int × List Char) :=
  match skipSpaces text with
  | '-' :: rest => (number? rest.length rest).map fun (n, rest) => (-n, rest)
  | '+' :: rest => (number? rest.length rest).map fun (n, rest) => (n, rest)
  | rest => (number? 4 rest).map fun (n, rest) => (n, rest)

def field? (text : List Char) : Option (Nat × List Char) :=
  number? 2 (skipSpaces text)

def mark? (mark : Char) (text : List Char) : Option (List Char) :=
  match skipSpaces text with
  | c :: rest => if c = mark then some rest else none
  | [] => none

def dateMark? : List Char → Option (List Char)
  | c :: rest => if c = 'T' ∨ c = 't' ∨ c = ' ' then some rest else none
  | [] => none

/-- Skips the fraction of a second, which needs a digit after its point. -/
def skipFraction? : List Char → Option (List Char)
  | '.' :: rest =>
    match rest.takeWhile Char.isDigit with
    | [] => none
    | _ => some (rest.dropWhile Char.isDigit)
  | text => some text

def twoDigits? : List Char → Option (Nat × List Char)
  | a :: b :: rest =>
    if a.isDigit && b.isDigit then some (Nat.ofDigitChars 10 [a, b] 0, rest) else none
  | _ => none

def isOffsetSeparator (c : Char) : Bool :=
  c = ':' || Text.isSpace c

/-- Hours and minutes ahead of UTC, as minutes, less than a day. -/
def numericOffset? (sign : Int) (text : List Char) : Option (Int × List Char) := do
  let (hours, rest) ← twoDigits? text
  let (minutes, rest) ← twoDigits? (rest.dropWhile isOffsetSeparator)
  if hours < 24 ∧ minutes < 60 then
    return (sign * (60 * hours + minutes), rest)
  else none

def offset? : List Char → Option (Int × List Char)
  | 'Z' :: rest | 'z' :: rest => some (0, rest)
  | '+' :: rest => numericOffset? 1 rest
  | '-' :: rest | '−' :: rest => numericOffset? (-1) rest
  | u :: t :: c :: rest =>
    if [u, t, c].map Char.toUpper = ['U', 'T', 'C'] then some (0, rest) else none
  | _ => none

def ofText? (text : String) : Option Instant := do
  let (year, rest) ← year? text.toList
  let (month, rest) ← field? (← mark? '-' rest)
  let (day, rest) ← field? (← mark? '-' rest)
  let (hour, rest) ← field? (← dateMark? rest)
  let (minute, rest) ← field? (← mark? ':' rest)
  let (second, rest) ← field? (← mark? ':' rest)
  let rest ← skipFraction? rest
  let (offset, rest) ← offset? (skipSpaces rest)
  if (skipSpaces rest).isEmpty then ofLocal? year month day hour minute second offset else none

end Instant

end GrafanaInstall
