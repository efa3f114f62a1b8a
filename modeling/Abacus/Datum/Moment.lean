import Abacus.Numeral.Decimal

/-!
# Dates and times

Calendar dates, times of day with microseconds, and the two together, with or without an offset
from universal time. Their text is a call that names their parts; parts that are zero at the end
of a time are left out.
-/

namespace Abacus

/-- A calendar date. -/
structure Date where
  year : Nat
  month : Nat
  day : Nat
  deriving DecidableEq, Repr

/-- A time of day. -/
structure TimeOfDay where
  hour : Nat
  minute : Nat
  second : Nat
  microsecond : Nat
  deriving DecidableEq, Repr

/-- A point in time, as far as a document gives it. The offset is in minutes. -/
inductive Moment
  | date (d : Date)
  | time (t : TimeOfDay)
  | dateTime (d : Date) (t : TimeOfDay) (offset? : Option Int)
  deriving DecidableEq, Repr

namespace Date

/-- Whether a year has a leap day. -/
def isLeapYear (year : Nat) : Bool :=
  year % 4 = 0 && (year % 100 ≠ 0 || year % 400 = 0)

/-- The number of days of a month. -/
def daysIn (year month : Nat) : Nat :=
  if month = 2 then (if isLeapYear year then 29 else 28)
  else if [4, 6, 9, 11].contains month then 30
  else 31

/-- Whether a date is on the calendar, which begins with the year one. -/
def isValid (d : Date) : Bool :=
  1 ≤ d.year && 1 ≤ d.month && d.month ≤ 12 && 1 ≤ d.day && d.day ≤ daysIn d.year d.month

/-- The parts of a date, largest first. -/
def parts (d : Date) : List Nat := [d.year, d.month, d.day]

end Date

/-- The parts of a time of day, largest first, without seconds and microseconds that are zero at
the end. -/
def TimeOfDay.parts (t : TimeOfDay) : List Nat :=
  if t.microsecond ≠ 0 then [t.hour, t.minute, t.second, t.microsecond]
  else if t.second ≠ 0 then [t.hour, t.minute, t.second]
  else [t.hour, t.minute]

namespace Moment

/-- A call with named or unnamed arguments. -/
def call (name : String) (arguments : List String) : String :=
  name ++ "(" ++ ", ".intercalate arguments ++ ")"

/-- The length of a day in seconds. -/
def secondsPerDay : Int := 86400

/-- The text of an offset: whole days rounded down, and the seconds that are left. -/
def offsetText (minutes : Int) : String :=
  if minutes = 0 then "datetime.timezone.utc"
  else
    let seconds := minutes * 60
    let days := seconds / secondsPerDay
    let rest := seconds % secondsPerDay
    let part (name : String) (n : Int) : List String :=
      if n = 0 then [] else [name ++ "=" ++ Numeral.intText n]
    call "datetime.timezone" [call "datetime.timedelta" (part "days" days ++ part "seconds" rest)]

/-- The text of a moment. -/
def text : Moment → String
  | .date d => call "datetime.date" (d.parts.map Numeral.natText)
  | .time t => call "datetime.time" (t.parts.map Numeral.natText)
  | .dateTime d t offset? =>
    call "datetime.datetime" ((d.parts ++ t.parts).map Numeral.natText
      ++ offset?.toList.map fun o => "tzinfo=" ++ offsetText o)

example : (Moment.date ⟨1979, 5, 27⟩).text = "datetime.date(1979, 5, 27)" := by decide +kernel

end Moment

end Abacus
