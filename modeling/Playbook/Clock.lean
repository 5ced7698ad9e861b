import Playbook.Decimal.Binary

/-!
Time. A clock shows seconds as a double; time stamps and spans are whole milliseconds, cut off
towards zero. A clock that has left the range of doubles has no time stamp.
-/

namespace Playbook.Clock

/-- Why there is no time stamp or span. -/
inductive Fault where
  /-- It is infinite. -/
  | infinite
  /-- It is undefined. -/
  | undefined
  /-- A start time is an integer beyond the doubles. -/
  | oversized
  /-- A start time is no number. -/
  | notNumber
  deriving Repr, DecidableEq

def Fault.message : Fault → String
  | .infinite => "cannot convert float infinity to integer"
  | .undefined => "cannot convert float NaN to integer"
  | .oversized => "int too large to convert to float"
  | .notNumber => "a start time has to be a number"

/-- Whole milliseconds of an amount that is already in milliseconds. -/
def whole (x : Float) : Except Fault Int :=
  match Decimal.readFloat x with
  | .finite b => .ok b.truncate
  | .infinite _ => .error .infinite
  | .notANumber => .error .undefined

/-- Seconds as whole milliseconds. -/
def milliseconds (seconds : Float) : Except Fault Int := whole (seconds * 1000.0)

/-- The whole milliseconds between two times. -/
def elapsed (start now : Float) : Except Fault Int := milliseconds (now - start)

/-- The time after a number of milliseconds, which may be negative or fractional. -/
def advance (now span : Float) : Float := now + span / 1000.0

end Playbook.Clock
