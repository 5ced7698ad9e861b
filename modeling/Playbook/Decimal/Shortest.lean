import Playbook.Decimal.Binary

/-!
The fewest decimal digits that read back as a given double. The reals that round to a double form
an interval around it; on the grid of `n`-digit decimals only the two neighbours of the double can
be the nearest points inside it, so trying `n = 1, 2, …, 17` in turn finds the shortest text.
-/

namespace Playbook.Decimal

/-- The decimal `coefficient · 10 ^ scale`. -/
structure Digits where
  coefficient : Nat
  scale : Int
  deriving Repr, DecidableEq

/-- The reals that round to a double, as integers over one common power of two: `low` and `high`
are the ends and `value` is the double itself. The ends belong to the interval exactly when the
mantissa is even. -/
structure Interval where
  low : Nat
  value : Nat
  high : Nat
  closed : Bool
  /-- The power of two that the three integers are multiplied by. -/
  power : Int
  deriving Repr

/-- A power of two has its lower neighbour at half the usual distance, unless it is the least
normal number. -/
def Binary.interval (b : Binary) : Interval :=
  let narrow := b.mantissa == Nat.pow 2 52 && b.exponent != -1074
  { low := 4 * b.mantissa - (if narrow then 1 else 2)
    value := 4 * b.mantissa
    high := 4 * b.mantissa + 2
    closed := b.mantissa % 2 == 0
    power := b.exponent - 2 }

/-- Both factors of a comparison of `n · 2 ^ power` with `d · 10 ^ scale`, cleared of negative
exponents. -/
def clearedBy (power scale : Int) : Nat × Nat :=
  (Nat.pow 2 power.toNat * Nat.pow 10 (-scale).toNat,
    Nat.pow 10 scale.toNat * Nat.pow 2 (-power).toNat)

/-- The least `k` with `numerator / denominator < 10 ^ k`, searched upwards from `k`. -/
def magnitudeFrom (numerator denominator : Nat) : Nat → Int → Int
  | 0, k => k
  | fuel + 1, k =>
    if numerator * Nat.pow 10 (-k).toNat < denominator * Nat.pow 10 k.toNat then k
    else magnitudeFrom numerator denominator fuel (k + 1)

/-- The number of digits in front of the point (not positive below 0.1). The logarithm of the bit
length starts the search at most a few steps too low. -/
def Binary.magnitude (b : Binary) : Int :=
  let bitLength : Int := (Nat.log2 b.mantissa : Int) + b.exponent
  let start := (bitLength * 30103).fdiv 100000 - 1
  let (num, den) := b.fraction
  magnitudeFrom num den 8 start

/-- The nearest point of the grid `10 ^ scale` that lies in the interval; of two at the same
distance the even one. -/
def Interval.onGrid? (i : Interval) (scale : Int) : Option Nat :=
  let (two, ten) := clearedBy i.power scale
  let value := i.value * two
  let below := value / ten
  let above := below + 1
  let inLow := if i.closed then i.low * two ≤ below * ten else i.low * two < below * ten
  let inHigh := if i.closed then above * ten ≤ i.high * two else above * ten < i.high * two
  let toLow := value - below * ten
  let toHigh := above * ten - value
  if inLow then
    if inHigh then
      if toLow < toHigh || (toLow == toHigh && below % 2 == 0) then some below else some above
    else some below
  else if inHigh then some above
  else none

/-- Tries grids of `n`, `n + 1`, … digits. -/
def Interval.search (i : Interval) (magnitude : Int) : Nat → Nat → Digits
  | 0, n => ⟨0, magnitude - n⟩
  | fuel + 1, n =>
    match i.onGrid? (magnitude - n) with
    | some d => ⟨d, magnitude - n⟩
    | none => i.search magnitude fuel (n + 1)

/-- The shortest decimal that reads back as `b`, and the nearest to it of that length. -/
def Binary.shortest (b : Binary) : Digits :=
  if b.mantissa = 0 then ⟨0, 0⟩ else b.interval.search b.magnitude 17 1

/-- Digits without trailing zeros, and the number of places in front of the point. -/
def Digits.spelled (d : Digits) : List Char × Int :=
  let all := (toString d.coefficient).toList
  let kept := (all.reverse.dropWhile (· == '0')).reverse
  (kept, all.length + d.scale)

end Playbook.Decimal
