/-!
Reading decimal text as a double: a sign, digits with an optional point, and an optional power of
ten, or one of the names of the values without digits.
-/

namespace Playbook.Decimal

/-- The value of one ASCII digit. -/
def digitValue (c : Char) : Nat := c.toNat - '0'.toNat

/-- The number that a row of decimal digits writes. -/
def naturalOf (digits : List Char) : Nat :=
  digits.foldl (fun n c => 10 * n + digitValue c) 0

/-- An optional sign: whether it is a minus, and the rest. -/
def takeSign : List Char → Bool × List Char
  | '-' :: rest => (true, rest)
  | '+' :: rest => (false, rest)
  | cs => (false, cs)

/-- An unsigned decimal: the digits of its coefficient, and the power of ten they are taken by. -/
structure Numeral where
  digits : List Char
  exponent : Int
  deriving Repr, DecidableEq

/-- Reads the power of ten at the end of a numeral. -/
def exponent? : List Char → Option Int
  | [] => some 0
  | e :: rest =>
    if e == 'e' || e == 'E' then
      let (negative, digits) := takeSign rest
      if !digits.isEmpty && digits.all Char.isDigit then
        let n : Int := naturalOf digits
        some (if negative then -n else n)
      else none
    else none

/-- Reads digits, an optional point with more digits, and an optional exponent; there is at least
one digit. -/
def Numeral.ofChars? (cs : List Char) : Option Numeral :=
  let whole := cs.takeWhile Char.isDigit
  let rest := cs.dropWhile Char.isDigit
  let (behind, rest) := match rest with
    | '.' :: more => (more.takeWhile Char.isDigit, more.dropWhile Char.isDigit)
    | _ => ([], rest)
  if whole.isEmpty && behind.isEmpty then none
  else (exponent? rest).map fun e => ⟨whole ++ behind, e - behind.length⟩

/-- The double nearest to a numeral. Numerals beyond the range of doubles are settled by their
size alone, so that no huge power of ten is ever computed. -/
def Numeral.toFloat (n : Numeral) : Float :=
  let digits := n.digits.dropWhile (· == '0')
  let size : Int := digits.length + n.exponent
  if digits.isEmpty then 0.0
  else if 400 < size then 1.0 / 0.0
  else if size < -400 then 0.0
  else if 0 ≤ n.exponent then
    Float.ofScientific (naturalOf digits * Nat.pow 10 n.exponent.toNat) false 0
  else
    Float.ofScientific (naturalOf digits) true (-n.exponent).toNat

/-- Lower case for ASCII letters. -/
def lowered (cs : List Char) : List Char := cs.map Char.toLower

/-- Reads a double: a numeral, `inf`, `infinity` or `nan` in any case, with an optional sign. -/
def read? (cs : List Char) : Option Float :=
  let (negative, body) := takeSign cs
  let magnitude : Option Float :=
    if lowered body = ['i', 'n', 'f'] ∨ lowered body = "infinity".toList then some (1.0 / 0.0)
    else if lowered body = ['n', 'a', 'n'] then some (0.0 / 0.0)
    else (Numeral.ofChars? body).map Numeral.toFloat
  magnitude.map fun x => if negative then -x else x

end Playbook.Decimal
