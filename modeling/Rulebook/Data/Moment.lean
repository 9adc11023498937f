/-!
Dates and times of day.

A date is a day of the calendar, which has years of four digits. A time may stand alone or
with a date, and then with the minutes by which its clock is ahead.
-/

namespace Rulebook

/-- Whether a year has a leap day. -/
def isLeapYear (year : Nat) : Bool := year % 4 == 0 && (year % 100 != 0 || year % 400 == 0)

/-- The days of a month. -/
def daysInMonth (year month : Nat) : Nat :=
  if month = 2 then if isLeapYear year then 29 else 28
  else if month = 4 ∨ month = 6 ∨ month = 9 ∨ month = 11 then 30
  else 31

/-- A day of the calendar. -/
structure Date where
  year : Nat
  month : Nat
  day : Nat
  year_pos : 0 < year
  month_pos : 0 < month
  month_le : month ≤ 12
  day_pos : 0 < day
  day_le : day ≤ daysInMonth year month

/-- The day of so many numbers, if the calendar has it. -/
def Date.ofNumbers? (year month day : Nat) : Option Date :=
  if h : (0 < year ∧ 0 < month) ∧ (month ≤ 12 ∧ 0 < day) ∧ day ≤ daysInMonth year month then
    some ⟨year, month, day, h.1.1, h.1.2, h.2.1.1, h.2.1.2, h.2.2⟩
  else none

/-- A time of day. -/
structure TimeOfDay where
  hour : Nat
  minute : Nat
  second : Nat
  micro : Nat
  hour_lt : hour < 24
  minute_lt : minute < 60
  second_lt : second < 60
  micro_lt : micro < 1000000

/-- The time of so many numbers, if a clock shows it. -/
def TimeOfDay.ofNumbers? (hour minute second micro : Nat) : Option TimeOfDay :=
  if h : (hour < 24 ∧ minute < 60) ∧ second < 60 ∧ micro < 1000000 then
    some ⟨hour, minute, second, micro, h.1.1, h.1.2, h.2.1, h.2.2⟩
  else none

/-- A date, a time of day, or both; the clock of both may be ahead by so many minutes. -/
inductive Moment where
  | date (day : Date)
  | time (clock : TimeOfDay)
  | dateTime (day : Date) (clock : TimeOfDay) (offset : Option Int)

namespace Moment

/-- The word for the kind of a moment. -/
def className : Moment → String
  | .date _ => "date"
  | .time _ => "time"
  | .dateTime _ _ _ => "datetime"

/-- The parts of a time from the minute on; what is zero at the end is left out. -/
def clockParts (clock : TimeOfDay) : List Nat :=
  [clock.hour, clock.minute] ++
    if clock.micro ≠ 0 then [clock.second, clock.micro]
    else if clock.second ≠ 0 then [clock.second]
    else []

/-- The parts of a date. -/
def dateParts (day : Date) : List Nat := [day.year, day.month, day.day]

/-- The offset of a clock as it is shown, in whole days and the seconds beyond. -/
def offsetText (minutes : Int) : String :=
  if minutes = 0 then "datetime.timezone.utc"
  else
    let days := minutes / 1440
    let seconds := minutes % 1440 * 60
    let parts := (if days = 0 then [] else [s!"days={days}"]) ++
      if seconds = 0 then [] else [s!"seconds={seconds}"]
    "datetime.timezone(datetime.timedelta(" ++ ", ".intercalate parts ++ "))"

/-- A moment as it is shown. -/
def shown (moment : Moment) : String :=
  let parts := match moment with
    | .date day => (dateParts day).map toString
    | .time clock => (clockParts clock).map toString
    | .dateTime day clock offset =>
      (dateParts day ++ clockParts clock).map toString ++
        (offset.map fun minutes => "tzinfo=" ++ offsetText minutes).toList
  "datetime." ++ moment.className ++ "(" ++ ", ".intercalate parts ++ ")"

end Moment

end Rulebook
