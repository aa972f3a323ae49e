import DiagnosticGateway.Text.Digits

/-!
# Moments of a TOML text

A moment is a date, a time of day, or a date with a time of day and possibly its distance
from universal time. Every part is in range, and a month has no more days than it has in its
year. A reader only returns what follows, since no value is kept of a moment.

This is a part of the reader that stands in for a library of the gateway, outside of what is
proved.
-/

namespace DiagnosticGateway.Toml

/-- Read a number of exactly `count` decimal digits within bounds. -/
def readFixed (count low high : Nat) (chars : List Char) : Option (Nat × List Char) := do
  let digits ← (chars.take count).mapM (Text.Digits.value? 10)
  let number := Text.Digits.numberOf 10 digits
  if digits.length = count && low ≤ number && number ≤ high then some (number, chars.drop count)
  else none

/-- Read one given character. -/
def expect (expected : Char) : List Char → Option (List Char)
  | [] => none
  | char :: rest => if char = expected then some rest else none

/-- Whether a year has a leap day. -/
def isLeapYear (year : Nat) : Bool :=
  year % 4 == 0 && (year % 100 != 0 || year % 400 == 0)

/-- The number of days of a month. -/
def daysOf (year month : Nat) : Nat :=
  match month with
  | 2 => if isLeapYear year then 29 else 28
  | 4 | 6 | 9 | 11 => 30
  | _ => 31

/-- Read a date. -/
def readDate (chars : List Char) : Option (List Char) := do
  let (year, rest) ← readFixed 4 0 9999 chars
  let (month, rest) ← readFixed 2 1 12 (← expect '-' rest)
  let (_, rest) ← readFixed 2 1 (daysOf year month) (← expect '-' rest)
  some rest

/-- Read the decimals of a second, if there are any. -/
def skipDecimals : List Char → List Char
  | '.' :: char :: rest =>
    if char.isDigit then rest.dropWhile Char.isDigit else '.' :: char :: rest
  | chars => chars

/-- Read a time of day. -/
def readTime (chars : List Char) : Option (List Char) := do
  let (_, rest) ← readFixed 2 0 23 chars
  let (_, rest) ← readFixed 2 0 59 (← expect ':' rest)
  let (_, rest) ← readFixed 2 0 60 (← expect ':' rest)
  some (skipDecimals rest)

/-- Read the hours and minutes of a distance from universal time. -/
def readDistance (chars : List Char) : Option (List Char) := do
  let (_, rest) ← readFixed 2 0 23 chars
  let (_, rest) ← readFixed 2 0 59 (← expect ':' rest)
  some rest

/-- Skip a distance from universal time, if there is one. -/
def skipOffset : List Char → List Char
  | 'Z' :: rest => rest
  | 'z' :: rest => rest
  | '+' :: rest => (readDistance rest).getD ('+' :: rest)
  | '-' :: rest => (readDistance rest).getD ('-' :: rest)
  | chars => chars

/-- Skip a time of day after a date, if there is one. -/
def skipTime : List Char → List Char
  | [] => []
  | char :: rest =>
    if char = 'T' || char = 't' || char = ' ' then
      match readTime rest with
      | some after => skipOffset after
      | none => char :: rest
    else
      char :: rest

/-- Read a moment. -/
def readMoment (chars : List Char) : Option (List Char) :=
  match readDate chars with
  | some rest => some (skipTime rest)
  | none => readTime chars

end DiagnosticGateway.Toml
