/-!
Punycode labels: a label outside ASCII is written as its ASCII characters followed by the others,
each as the distance from the previous one in a variable-length number.
-/

namespace Playbook.Url.Punycode

/-- The value of a digit in base 36. -/
def digit? (c : Char) : Option Nat :=
  if 'a' ≤ c ∧ c ≤ 'z' then some (c.toNat - 'a'.toNat)
  else if 'A' ≤ c ∧ c ≤ 'Z' then some (c.toNat - 'A'.toNat)
  else if '0' ≤ c ∧ c ≤ '9' then some (c.toNat - '0'.toNat + 26)
  else none

/-- The threshold of the digit at position `k`. -/
def threshold (k bias : Nat) : Nat :=
  if k ≤ bias then 1 else if bias + 26 ≤ k then 26 else k - bias

/-- Divides by 35 until little is left, counting 36 for each division. -/
def shrink (delta k : Nat) : Nat × Nat :=
  if 455 < delta then shrink (delta / 35) (k + 36) else (delta, k)
termination_by delta
decreasing_by exact Nat.div_lt_self (by omega) (by omega)

/-- The bias for the next number, from the last one. -/
def adapt (delta size : Nat) (first : Bool) : Nat :=
  let scaled := if first then delta / 700 else delta / 2
  let (rest, k) := shrink (scaled + scaled / size) 0
  k + 36 * rest / (rest + 38)

/-- The state between two characters: the output, the last code point, the place and the bias. -/
structure State where
  output : List Char
  code : Nat
  place : Nat
  bias : Nat

/-- The state before the first character. -/
def State.initial (basic : List Char) : State := ⟨basic, 128, 0, 72⟩

/-- Inserts the character that a finished number stands for. -/
def State.insert? (s : State) (value : Nat) : Option State :=
  let size := s.output.length + 1
  let code := s.code + value / size
  let place := value % size
  if Nat.isValidChar code then
    some ⟨s.output.take place ++ Char.ofNat code :: s.output.drop place, code, place + 1,
      adapt (value - s.place) size (s.place == 0 && s.code == 128)⟩
  else none

/-- Reads digits; `value`, `weight` and `k` belong to the number that is being read, and no number
is being read when `k` is zero. -/
def decodeDigits : List Char → State → Nat → Nat → Nat → Option (List Char)
  | [], s, _, _, k => if k = 0 then some s.output else none
  | c :: rest, s, value, weight, k =>
    match digit? c with
    | none => none
    | some d =>
      let k := k + 36
      let (value, weight) := if k = 36 then (s.place + d, 1) else (value + d * weight, weight)
      let t := threshold k s.bias
      if d < t then
        match s.insert? value with
        | none => none
        | some s => decodeDigits rest s 0 0 0
      else decodeDigits rest s value (weight * (36 - t)) k

/-- The label that an ASCII text stands for. The last hyphen ends the ASCII characters. -/
def decode? (cs : List Char) : Option (List Char) :=
  let tail := (cs.reverse.takeWhile (· != '-')).reverse
  let basic := (cs.reverse.dropWhile (· != '-')).reverse.dropLast
  if tail.isEmpty then none
  else if basic.all (·.toNat < 128) then decodeDigits tail (.initial basic) 0 0 0
  else none

end Playbook.Url.Punycode
