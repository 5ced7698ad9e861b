import Playbook.Decimal.Layout

/-!
Dates and times of day as documents write them, and their text.
-/

namespace Playbook

/-- A day of the Gregorian calendar. -/
structure Date where
  year : Nat
  month : Nat
  day : Nat
  deriving Repr, DecidableEq

/-- Where a time stands against universal time. -/
inductive Zone where
  | unstated
  /-- Universal time itself. -/
  | universal
  /-- Minutes ahead of universal time. -/
  | offset (minutes : Int)
  deriving Repr, DecidableEq

/-- A day and a time of day. -/
structure Moment where
  date : Date
  hour : Nat
  minute : Nat
  second : Nat
  microsecond : Nat
  zone : Zone
  deriving Repr, DecidableEq

namespace Date

def isLeap (year : Nat) : Bool :=
  year % 4 == 0 && (year % 100 != 0 || year % 400 == 0)

def daysIn (year month : Nat) : Nat :=
  if month = 2 then (if isLeap year then 29 else 28)
  else if month = 4 ∨ month = 6 ∨ month = 9 ∨ month = 11 then 30
  else 31

/-- Whether the calendar has this day. -/
def exists? (d : Date) : Bool :=
  1 ≤ d.year && d.year ≤ 9999 && 1 ≤ d.month && d.month ≤ 12 &&
    1 ≤ d.day && d.day ≤ daysIn d.year d.month

end Date

/-- A number in at least `width` digits. -/
def zeroPadded (width n : Nat) : String :=
  String.ofList (Decimal.padLeft width (toString n).toList)

/-- The date as year, month and day. -/
def Date.text (d : Date) : String :=
  zeroPadded 4 d.year ++ "-" ++ zeroPadded 2 d.month ++ "-" ++ zeroPadded 2 d.day

namespace Moment

/-- Whether the time of day is one. -/
def exists? (m : Moment) : Bool :=
  m.date.exists? && m.hour < 24 && m.minute < 60 && m.second < 60

/-- Date and time joined by a `T`, the fraction only when there is one. -/
def localText (m : Moment) : String :=
  let fraction := if m.microsecond = 0 then "" else "." ++ zeroPadded 6 m.microsecond
  m.date.text ++ "T" ++ zeroPadded 2 m.hour ++ ":" ++ zeroPadded 2 m.minute ++ ":" ++
    zeroPadded 2 m.second ++ fraction

/-- An offset as hours and minutes with a sign. -/
def offsetText (minutes : Int) : String :=
  let sign := if minutes < 0 then "-" else "+"
  sign ++ zeroPadded 2 (minutes.natAbs / 60) ++ ":" ++ zeroPadded 2 (minutes.natAbs % 60)

/-- The moment with a numeric offset, when it has a zone. -/
def text (m : Moment) : String :=
  m.localText ++ match m.zone with
    | .unstated => ""
    | .universal => offsetText 0
    | .offset minutes => offsetText minutes

/-- The moment as data interchange writes it: universal time is a `Z`. -/
def interchangeText (m : Moment) : String :=
  m.localText ++ match m.zone with
    | .unstated => ""
    | .universal => "Z"
    | .offset minutes => if minutes = 0 then "Z" else offsetText minutes

end Moment

end Playbook
