/-!
# Dates and times

Civil dates, times of day to the microsecond, and moments: a date and a time with or without an
offset from universal time. `isoText` is the ISO 8601 form, where a fraction of a second has six
digits and is left out when it is zero.
-/

namespace Restyle.Calendar

/-- A number in decimal with at least `width` digits. -/
def padded (width n : Nat) : String :=
  let digits := Nat.repr n
  String.ofList (List.replicate (width - digits.length) '0') ++ digits

/-- Whether February has 29 days. -/
def isLeap (year : Nat) : Bool :=
  year % 4 == 0 && (year % 100 != 0 || year % 400 == 0)

/-- The number of days of a month. -/
def daysIn (year month : Nat) : Nat :=
  if month = 2 then (if isLeap year then 29 else 28)
  else if month = 4 ∨ month = 6 ∨ month = 9 ∨ month = 11 then 30
  else 31

/-- A day of the calendar. -/
structure Date where
  year : Nat
  month : Nat
  day : Nat
  deriving DecidableEq, Repr, Inhabited

namespace Date

/-- Whether the day exists, in the years 1 to 9999. -/
def isValid (d : Date) : Bool :=
  1 ≤ d.year && d.year ≤ 9999 && 1 ≤ d.month && d.month ≤ 12 &&
    1 ≤ d.day && d.day ≤ daysIn d.year d.month

/-- Year, month and day with hyphens. -/
def isoText (d : Date) : String :=
  padded 4 d.year ++ "-" ++ padded 2 d.month ++ "-" ++ padded 2 d.day

end Date

/-- A time of day. -/
structure Clock where
  hour : Nat
  minute : Nat
  second : Nat
  micros : Nat
  deriving DecidableEq, Repr, Inhabited

/-- Hour, minute and second with colons, and the microseconds if there are any. -/
def Clock.isoText (t : Clock) : String :=
  padded 2 t.hour ++ ":" ++ padded 2 t.minute ++ ":" ++ padded 2 t.second ++
    (if t.micros = 0 then "" else "." ++ padded 6 t.micros)

/-- An offset from universal time, in minutes. -/
structure Offset where
  minutes : Int
  deriving DecidableEq, Repr, Inhabited

/-- Sign, hours and minutes of an offset. -/
def Offset.isoText (o : Offset) : String :=
  let size := o.minutes.natAbs
  (if o.minutes < 0 then "-" else "+") ++ padded 2 (size / 60) ++ ":" ++ padded 2 (size % 60)

/-- A date and a time of day, in universal time if the offset is known. -/
structure Moment where
  date : Date
  clock : Clock
  offset : Option Offset
  deriving DecidableEq, Repr, Inhabited

/-- Date, a separator, time and offset. -/
def Moment.isoText (m : Moment) (separator : String) : String :=
  m.date.isoText ++ separator ++ m.clock.isoText ++ (m.offset.map Offset.isoText).getD ""

end Restyle.Calendar
