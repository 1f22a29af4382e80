/-
# Moments of TOML documents

A moment is a date, a time of day, or both together, and in the last case there
may be a time zone. A document can write the same moment in several ways; its
text is the one way in which it is shown.
-/

import BeanConstraints.Text.Digits

namespace BeanConstraints.Toml

/-- A day of the calendar. -/
structure Date where
  year : Nat
  month : Nat
  day : Nat
  deriving DecidableEq, Inhabited

/-- A time of day, exact to the nanosecond. -/
structure TimeOfDay where
  hour : Nat
  minute : Nat
  second : Nat
  nanosecond : Nat
  deriving DecidableEq, Inhabited

/-- A time zone. -/
inductive Zone where
  /-- Universal time. -/
  | universal
  /-- So many minutes ahead of universal time. -/
  | ahead (minutes : Int)
  deriving DecidableEq, Inhabited

/-- A date, a time of day or both. -/
inductive Moment where
  | date (day : Date)
  | time (clock : TimeOfDay)
  | both (day : Date) (clock : TimeOfDay) (zone : Option Zone)
  deriving DecidableEq, Inhabited

/-- Year, month and day with dashes between them. -/
def Date.text (date : Date) : String :=
  Text.padded 4 date.year ++ "-" ++ Text.padded 2 date.month ++ "-" ++ Text.padded 2 date.day

/-- The fraction of a second: no digit if it is zero, and no zero at its end. -/
def TimeOfDay.fractionText (nanosecond : Nat) : String :=
  if nanosecond = 0 then ""
  else
    let digits := (Text.padded 9 nanosecond).toList.reverse.dropWhile (· == '0')
    "." ++ String.ofList digits.reverse

/-- Hour, minute and second with colons between them, and the fraction. -/
def TimeOfDay.text (time : TimeOfDay) : String :=
  Text.padded 2 time.hour ++ ":" ++ Text.padded 2 time.minute ++ ":" ++
    Text.padded 2 time.second ++ TimeOfDay.fractionText time.nanosecond

/-- A letter for universal time, else a sign with hours and minutes. No distance at all has the
sign of those ahead. -/
def Zone.text : Zone → String
  | universal => "Z"
  | ahead minutes =>
      let distance := minutes.natAbs
      (if minutes < 0 then "-" else "+") ++ Text.padded 2 (distance / 60) ++ ":" ++
        Text.padded 2 (distance % 60)

/-- The moment as it is shown, with a letter between date and time. -/
def Moment.text : Moment → String
  | date day => day.text
  | time clock => clock.text
  | both day clock zone => day.text ++ "T" ++ clock.text ++ (zone.map Zone.text).getD ""

end BeanConstraints.Toml
