import ResourceWatch.Number.Binary64
import ResourceWatch.Number.Word

/-! # Timestamps

Points in time as payloads write them: a date, a time of day with an optional
fraction, and an offset from universal time. A leap second is counted as the last
second of its minute with a thousand million nanoseconds more.
-/

namespace ResourceWatch

/-- A point in time: seconds since the start of 1970 in universal time, nanoseconds
within the second, and the offset in seconds of the clock that showed it. -/
structure Timestamp where
  seconds : Int
  nanoseconds : Nat
  offset : Int
  deriving DecidableEq, Repr

namespace Timestamp

/-- Whether a year has a leap day. -/
def isLeap (year : Nat) : Bool :=
  year % 4 = 0 && (year % 100 ≠ 0 || year % 400 = 0)

/-- The lengths of the months of a year. -/
def monthLengths (year : Nat) : List Nat :=
  [31, if isLeap year then 29 else 28, 31, 30, 31, 30, 31, 31, 30, 31, 30, 31]

/-- The number of days from the start of year zero to the start of a year. -/
def daysBeforeYear (year : Nat) : Nat :=
  365 * year + (year + 3) / 4 - (year + 99) / 100 + (year + 399) / 400

/-- The number of days from the start of year zero to the start of 1970. -/
def epochDays : Nat := daysBeforeYear 1970

/-- The number of days from the start of year zero to a date, if there is such a
date. -/
def dayNumber? (year month day : Nat) : Option Nat :=
  let months := monthLengths year
  if 1 ≤ month then
    months[month - 1]?.bind fun length =>
      if 1 ≤ day ∧ day ≤ length then
        some (daysBeforeYear year + (months.take (month - 1)).foldl (· + ·) 0 + (day - 1))
      else none
  else none

/-- Reads a number with a fixed count of digits. -/
def readFixed : Nat → List Char → Option (Nat × List Char)
  | 0, text => some (0, text)
  | _ + 1, [] => none
  | count + 1, c :: rest =>
    (digit? c).bind fun d =>
      (readFixed count rest).map fun (value, tail) => (d * tenTo count + value, tail)

/-- Reads one of some characters. -/
def readMark (marks : List Char) : List Char → Option (List Char)
  | c :: rest => if c ∈ marks then some rest else none
  | [] => none

/-- Reads a date as its day number. -/
def readDate (text : List Char) : Option (Nat × List Char) := do
  let (year, rest) ← readFixed 4 text
  let (month, rest) ← readFixed 2 (← readMark ['-'] rest)
  let (day, rest) ← readFixed 2 (← readMark ['-'] rest)
  return (← dayNumber? year month day, rest)

/-- Reads a time of day without a fraction, as seconds since midnight and whether
the last one is a leap second. -/
def readClock (text : List Char) : Option ((Nat × Bool) × List Char) := do
  let (hour, rest) ← readFixed 2 text
  let (minute, rest) ← readFixed 2 (← readMark [':'] rest)
  let (second, rest) ← readFixed 2 (← readMark [':'] rest)
  -- A leap second is read as a second 59 that lasts for two.
  if hour < 24 ∧ minute < 60 ∧ second ≤ 60 then
    return ((hour * 3600 + minute * 60 + min second 59, second = 60), rest)
  else none

/-- The digits at the start of a text. -/
def leadingDigits (text : List Char) : List Nat :=
  (text.takeWhile Char.isDigit).filterMap digit?

/-- The nanoseconds that the digits of a fraction denote. Digits after the ninth
are cut off. -/
def nanosecondsOf (digits : List Nat) : Nat :=
  let kept := digits.take 9
  kept.foldl (fun value d => 10 * value + d) 0 * tenTo (9 - kept.length)

/-- Reads the fraction of a second, if there is a point. -/
def readFraction : List Char → Option (Nat × List Char)
  | '.' :: rest =>
    let digits := leadingDigits rest
    if digits.isEmpty then none else some (nanosecondsOf digits, rest.dropWhile Char.isDigit)
  | text => some (0, text)

/-- The sign of an offset. The minus sign of mathematics is allowed. -/
def offsetSign? : Char → Option Int
  | '+' => some 1
  | '-' => some (-1)
  | '\u2212' => some (-1)
  | _ => none

/-- Reads an offset: a letter for universal time, or less than a day in hours and
minutes. -/
def readOffset : List Char → Option (Int × List Char)
  | 'Z' :: rest => some (0, rest)
  | 'z' :: rest => some (0, rest)
  | c :: rest => do
    let sign ← offsetSign? c
    let (hours, rest) ← readFixed 2 rest
    let (minutes, rest) ← readFixed 2 (← readMark [':'] rest)
    if hours < 24 ∧ minutes < 60 then
      return (sign * (hours * 3600 + minutes * 60 : Nat), rest)
    else none
  | [] => none

/-- The point in time that a text denotes. The parts are fixed in width, and a
letter or a space stands between date and time. -/
def ofText? (text : String) : Option Timestamp := do
  let (day, rest) ← readDate text.toList
  let ((clock, leap), rest) ← readClock (← readMark ['T', 't', ' '] rest)
  let (fraction, rest) ← readFraction rest
  let (offset, rest) ← readOffset rest
  if rest.isEmpty then
    let days : Int := day - epochDays
    return ⟨days * 86400 + clock - offset, fraction + (if leap then 1000000000 else 0), offset⟩
  else none

end Timestamp

/-- The whole seconds from a point in time to another second, and none if the point
in time lies in the future. -/
def Timestamp.ageAt (created : Timestamp) (now : Int) : Nat :=
  (now - created.seconds).toNat

/-- The written form of an age in seconds: days and hours, hours and minutes, or
below an hour the minutes or seconds alone. -/
def renderAge (age : Nat) : String :=
  let days := age / 86400
  let hours := age % 86400 / 3600
  let minutes := age % 3600 / 60
  if 0 < days then s!"{days}d{hours}h"
  else if 0 < hours then s!"{hours}h{minutes}m"
  else if 0 < minutes then s!"{minutes}m"
  else s!"{age}s"

end ResourceWatch
