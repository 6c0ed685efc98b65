import SyntaxOutline.Number.Shortest

/-
  Calendar dates and moments of a day.

  A moment may carry its distance from universal time; two
  moments that carry one are the same when they name the same
  instant.

  Key definitions include:
    * `CalendarDate`
    * `Moment`
    * `Moment.check`
    * `Moment.iso`
    * `Moment.literal`
-/

------------------------------------------------------------
-- Dates
------------------------------------------------------------

namespace SyntaxOutline

/- A day of the calendar. -/
structure CalendarDate where
  year : Nat
  month : Nat
  day : Nat
  deriving DecidableEq, Repr, Inhabited

namespace CalendarDate

/- The year has a twenty-ninth of February. -/
def isLeap
    (year : Nat) : Bool :=
  year % 4 == 0 && (year % 100 != 0 || year % 400 == 0)

/- The number of days of a month. -/
def monthDays
    (year month : Nat) : Nat :=
  match month with
  | 2 => if isLeap year then 29 else 28
  | 4 | 6 | 9 | 11 => 30
  | _ => 31

/- The number of days before a month of a year. -/
def daysBefore
    (year : Nat) :
    Nat → Nat
  | 0 => 0
  | month + 1 =>
      if month = 0 then 0
      else daysBefore year month + monthDays year month

/- The number of a day, counted from the first of year one. -/
def dayNumber
    (d : CalendarDate) : Nat :=
  let years := d.year - 1
  years * 365 + years / 4 - years / 100 + years / 400 +
    daysBefore d.year d.month + d.day

end CalendarDate

------------------------------------------------------------
-- Moments
------------------------------------------------------------

/-
  A day, or a time of a day down to microseconds with an
  optional distance from universal time in seconds.
-/
inductive Moment where
  | day (date : CalendarDate)
  | time (date : CalendarDate) (hour minute second micro : Nat)
      (offset : Option Int)
  deriving DecidableEq, Repr, Inhabited

namespace Moment

/- Why parts do not make a moment. -/
inductive Fault where
  | year (given : Nat)
  | month
  | day
  | hour
  | minute
  | second
  | offset (seconds : Int)
  deriving DecidableEq, Repr

/- The days and the seconds of the day of a span of seconds. -/
def spanText
    (seconds : Int) : String :=
  let days := seconds / 86400
  let rest := seconds % 86400
  let parts :=
    (if days = 0 then [] else ["days=" ++ toString days]) ++
      (if rest = 0 then [] else ["seconds=" ++ toString rest])
  "datetime.timedelta(" ++
    (if parts.isEmpty then "0" else ", ".intercalate parts) ++ ")"

/- The text of a fault. -/
def Fault.message : Fault → String
  | .year given => "year " ++ toString given ++ " is out of range"
  | .month => "month must be in 1..12"
  | .day => "day is out of range for month"
  | .hour => "hour must be in 0..23"
  | .minute => "minute must be in 0..59"
  | .second => "second must be in 0..59"
  | .offset seconds =>
      "offset must be a timedelta strictly between " ++
        "-timedelta(hours=24) and timedelta(hours=24), not " ++
        spanText seconds ++ "."

/- The first part of a date that is out of range. -/
def dateFault?
    (d : CalendarDate) : Option Fault :=
  if d.year = 0 then some (.year d.year)
  else if d.month = 0 ∨ 12 < d.month then some .month
  else if d.day = 0 ∨ CalendarDate.monthDays d.year d.month < d.day then
    some .day
  else none

/- The first part of a moment that is out of range. -/
def fault? : Moment → Option Fault
  | .day d => dateFault? d
  | .time d hour minute second _ offset =>
      match offset with
      | some seconds =>
          if seconds ≤ -86400 ∨ 86400 ≤ seconds then
            some (.offset seconds)
          else timeFault? d hour minute second
      | none => timeFault? d hour minute second
where
  timeFault? (d : CalendarDate) (hour minute second : Nat) :
      Option Fault :=
    (dateFault? d).or
      (if 23 < hour then some .hour
       else if 59 < minute then some .minute
       else if 59 < second then some .second
       else none)

/- The moment, if all of its parts are in range. -/
def check
    (m : Moment) : Except Fault Moment :=
  match m.fault? with
  | some fault => .error fault
  | none => .ok m

------------------------------------------------------------
-- Same Instant
------------------------------------------------------------

/- Microseconds of a moment since the first day. -/
def instant
    (date : CalendarDate)
    (hour minute second micro : Nat)
    (offset : Int) : Int :=
  ((((date.dayNumber * 24 + hour) * 60 + minute) * 60 + second : Nat) -
    offset) * 1000000 + micro

------------------------------------------------------------
-- Written Moments
------------------------------------------------------------

/- A number in at least `width` digits. -/
def padded
    (width n : Nat) : String :=
  String.ofList (Binary64.padLeft width (Nat.toDigits 10 n))

/- A date by year, month and day. -/
def isoDate
    (d : CalendarDate) : String :=
  padded 4 d.year ++ "-" ++ padded 2 d.month ++ "-" ++ padded 2 d.day

/- A distance from universal time in hours and minutes. -/
def isoOffset
    (seconds : Int) : String :=
  let minutes := seconds.natAbs / 60
  (if seconds < 0 then "-" else "+") ++
    padded 2 (minutes / 60) ++ ":" ++ padded 2 (minutes % 60)

/- A moment with the given text between date and time. -/
def textWith
    (between : String) :
    Moment → String
  | .day d => isoDate d
  | .time d hour minute second micro offset =>
      isoDate d ++ between ++ padded 2 hour ++ ":" ++
        padded 2 minute ++ ":" ++ padded 2 second ++
        (if micro = 0 then "" else "." ++ padded 6 micro) ++
        (match offset with
          | none => ""
          | some seconds => isoOffset seconds)

/- The standard form of a moment. -/
def iso : Moment → String :=
  textWith "T"

/- The form of a moment inside a sentence. -/
def sentence : Moment → String :=
  textWith " "

/- A moment spelled out by its parts. -/
def literal : Moment → String
  | .day d =>
      "datetime.date(" ++ dateParts d ++ ")"
  | .time d hour minute second micro offset =>
      let parts :=
        [dateParts d, toString hour, toString minute] ++
          (if second = 0 ∧ micro = 0 then [] else [toString second]) ++
          (if micro = 0 then [] else [toString micro]) ++
          (match offset with
            | none => []
            | some 0 => ["tzinfo=datetime.timezone.utc"]
            | some seconds =>
                ["tzinfo=datetime.timezone(" ++ spanText seconds ++ ")"])
      "datetime.datetime(" ++ ", ".intercalate parts ++ ")"
where
  dateParts (d : CalendarDate) : String :=
    ", ".intercalate
      [toString d.year, toString d.month, toString d.day]

end Moment

end SyntaxOutline
