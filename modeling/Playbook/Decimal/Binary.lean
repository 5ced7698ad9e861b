/-!
What a double stands for exactly: a sign and `mantissa · 2 ^ exponent`. Every conversion between
doubles and integers in the library goes through this reading, so that truncation, rounding and
equality are integer arithmetic and lose nothing.
-/

namespace Playbook.Decimal

/-- A finite double is `mantissa · 2 ^ exponent`, negated when `negative` holds. -/
structure Binary where
  negative : Bool
  mantissa : Nat
  exponent : Int
  deriving Repr, DecidableEq

/-- The three kinds of double. -/
inductive Reading where
  | notANumber
  | infinite (negative : Bool)
  | finite (value : Binary)
  deriving Repr, DecidableEq

/-- The exponent field of a double, between 0 and 2047. -/
def exponentField (bits : Nat) : Nat := bits / Nat.pow 2 52 % Nat.pow 2 11

/-- The fraction field of a double, below `2 ^ 52`. -/
def fractionField (bits : Nat) : Nat := bits % Nat.pow 2 52

/-- Reads the 64 bits of a double. A zero exponent field marks the subnormal range, a full one
the infinities and the values that are not numbers. -/
def readBits (bits : Nat) : Reading :=
  let negative := decide (Nat.pow 2 63 ≤ bits)
  let field := exponentField bits
  let fraction := fractionField bits
  if field = 2047 then
    if fraction = 0 then .infinite negative else .notANumber
  else if field = 0 then
    .finite ⟨negative, fraction, -1074⟩
  else
    .finite ⟨negative, Nat.pow 2 52 + fraction, (field : Int) - 1075⟩

/-- The exact reading of a double. -/
def readFloat (x : Float) : Reading := readBits x.toBits.toNat

namespace Binary

/-- The integer with the sign of `b` and the given magnitude. -/
def signed (b : Binary) (magnitude : Nat) : Int :=
  if b.negative then -(magnitude : Int) else magnitude

/-- The magnitude as a fraction `numerator / denominator` of natural numbers. -/
def fraction (b : Binary) : Nat × Nat :=
  if 0 ≤ b.exponent then (b.mantissa * Nat.pow 2 b.exponent.toNat, 1)
  else (b.mantissa, Nat.pow 2 (-b.exponent).toNat)

/-- Drops the part behind the point. -/
def truncate (b : Binary) : Int :=
  b.signed (b.fraction.1 / b.fraction.2)

/-- The nearest integer; a half goes to the even neighbour. -/
def roundHalfEven (b : Binary) : Int :=
  let (num, den) := b.fraction
  let low := num / den
  let twice := 2 * (num % den)
  let up := twice > den || (twice == den && low % 2 == 1)
  b.signed (if up then low + 1 else low)

/-- Whether nothing stands behind the point. -/
def isIntegral (b : Binary) : Bool :=
  b.fraction.1 % b.fraction.2 == 0

end Binary

/-- The integer that a double equals, if it equals one. -/
def integerOf? (x : Float) : Option Int :=
  match readFloat x with
  | .finite b => if b.isIntegral then some b.truncate else none
  | _ => none

end Playbook.Decimal
