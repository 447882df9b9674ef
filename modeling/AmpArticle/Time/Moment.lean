import AmpArticle.Text.Blank

/-!
Moments: a day of the Gregorian calendar, extended to all years, with a time of day down to microseconds, and how far
its clock is ahead of universal time when that is known.
-/

namespace AmpArticle

/-- a day and a time of day; `offset` counts seconds east of universal time -/
structure Moment where
  year : Nat
  month : Nat
  day : Nat
  hour : Nat
  minute : Nat
  second : Nat
  microsecond : Nat
  offset : Option Int
  deriving DecidableEq, Inhabited

namespace Calendar

/-- whether a year has a 29th of February -/
def isLeap (year : Nat) : Bool := year % 4 == 0 && (year % 100 != 0 || year % 400 == 0)

/-- the number of days in a month, none for a number that is no month -/
def daysInMonth (year month : Nat) : Nat :=
  if month = 2 then (if isLeap year then 29 else 28)
  else if month = 4 ∨ month = 6 ∨ month = 9 ∨ month = 11 then 30
  else if 1 ≤ month ∧ month ≤ 12 then 31
  else 0

/-- the number of days in the months before this one -/
def daysBeforeMonth (year : Nat) : Nat → Nat
  | 0 => 0
  | month + 1 => daysBeforeMonth year month + daysInMonth year month

/-- the number of the day in its year, from one -/
def dayOfYear (year month day : Nat) : Nat := daysBeforeMonth year month + day

/-- the number of days in the years before this one, counted from year zero -/
def daysBeforeYear (year : Nat) : Nat :=
  if year = 0 then 0 else year * 365 + (year - 1) / 4 - (year - 1) / 100 + (year - 1) / 400 + 1

/-- the number of a day, counted from the first of January of year zero -/
def dayNumber (year month day : Nat) : Nat := daysBeforeYear year + daysBeforeMonth year month + (day - 1)

/-- the day number of the first of January 1970 -/
def epochDay : Nat := dayNumber 1970 1 1

/-- the weekday of a day number, Sunday being zero -/
def weekday (number : Nat) : Nat := (number + 6) % 7

/-- the month and day of a day of the year that counts from zero, trying `left` months from `month` on -/
def monthAndDay (year : Nat) : Nat → Nat → Nat → Nat × Nat
  | month, rest, 0 => (month, rest + 1)
  | month, rest, left + 1 =>
    if rest < daysInMonth year month then (month, rest + 1)
    else monthAndDay year (month + 1) (rest - daysInMonth year month) left

/-- year, month and day of a day number -/
def ofDayNumber (number : Nat) : Nat × Nat × Nat :=
  let guess := number * 400 / 146097
  let year :=
    if daysBeforeYear (guess + 1) ≤ number then guess + 1
    else if daysBeforeYear guess ≤ number then guess
    else guess - 1
  let (month, day) := monthAndDay year 1 (number - daysBeforeYear year) 11
  (year, month, day)

end Calendar

namespace Moment

/-- digits of a number with zeros in front up to a width -/
def padded (width n : Nat) : String :=
  let digits := toString n
  String.ofList (List.replicate (width - digits.length) '0') ++ digits

/-- an offset as hours and minutes, with seconds when there are any -/
def offsetText (separator : String) (offset : Int) : String :=
  let n := offset.natAbs
  (if offset < 0 then "-" else "+") ++ padded 2 (n / 3600) ++ separator ++ padded 2 (n / 60 % 60)
    ++ (if n % 60 = 0 then "" else separator ++ padded 2 (n % 60))

/-- the moment in the usual interchange form -/
def isoText (m : Moment) : String :=
  padded 4 m.year ++ "-" ++ padded 2 m.month ++ "-" ++ padded 2 m.day ++ "T" ++ padded 2 m.hour ++ ":"
    ++ padded 2 m.minute ++ ":" ++ padded 2 m.second
    ++ (if m.microsecond = 0 then "" else "." ++ padded 6 m.microsecond)
    ++ (match m.offset with
      | some offset => offsetText ":" offset
      | none => "")

/-- the name of the moment's time zone: its offset, or `UTC` without one -/
def zoneName (m : Moment) : String :=
  match m.offset with
  | none => ""
  | some 0 => "UTC"
  | some offset => offsetText ":" offset

/-- the moment as a literal; seconds and microseconds are left out from the end when they are zero -/
def literal (m : Moment) : String :=
  let parts := [m.year, m.month, m.day, m.hour, m.minute]
    ++ (if m.microsecond = 0 ∧ m.second = 0 then [] else [m.second])
    ++ (if m.microsecond = 0 then [] else [m.microsecond])
  "datetime.datetime(" ++ Text.joinWith ", " (parts.map toString
    ++ (match m.offset with
      | some offset => [s!"tzinfo=TzInfo({offset})"]
      | none => [])) ++ ")"

/-- the number of the moment's day -/
def dayNumber (m : Moment) : Nat := Calendar.dayNumber m.year m.month m.day

/-- the moment's weekday, Sunday being zero -/
def weekday (m : Moment) : Nat := Calendar.weekday m.dayNumber

/-- the number of the moment's day in its year, from one -/
def dayOfYear (m : Moment) : Nat := Calendar.dayOfYear m.year m.month m.day

end Moment

end AmpArticle
