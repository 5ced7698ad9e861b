import Playbook.Schema.Issue
import Playbook.Decimal.Numeral
import Playbook.Text.Blank

/-!
Scalars under a schema. Strict checks take a value of exactly the right type; lenient ones also
take spellings that plainly mean such a value: digits in text, truth values as words, whole
doubles.
-/

namespace Playbook.Schema

open Check

/-! ### Strict checks -/

def strictText : Value → Check String
  | .text s => .pass s
  | _ => reject .notText

/-- A truth value is no integer. -/
def strictInt : Value → Check Int
  | .int n => .pass n
  | _ => reject .notInteger

def strictBool : Value → Check Bool
  | .bool b => .pass b
  | _ => reject .notBoolean

/-- Any value, as it is. -/
def anything (v : Value) : Check Value := .pass v

/-- Null, or what the check takes. -/
def optional {α : Type} (check : Value → Check α) : Value → Check (Option α)
  | .null => .pass none
  | v => Check.map some (check v)

/-! ### Integers in text -/

/-- Drops a point with nothing but zeros behind it. -/
def dropZeroFraction (cs : List Char) : List Char :=
  let whole := cs.takeWhile (· != '.')
  match cs.dropWhile (· != '.') with
  | '.' :: zeros => if zeros.all (· == '0') then whole else cs
  | _ => cs

/-- Whether two underscores stand side by side. -/
def hasDoubleUnderscore : List Char → Bool
  | [] => false
  | c :: rest => (c == '_' && rest.head? == some '_') || hasDoubleUnderscore rest

/-- Drops the underscores that group digits. They stand alone and neither first nor last; a text
where they do not is left as it is. -/
def dropGrouping (cs : List Char) : List Char :=
  if cs.head? = some '_' ∨ cs.getLast? = some '_' ∨ hasDoubleUnderscore cs then cs
  else cs.filter (· != '_')

/-- What is left behind zeros and underscores, the last of which is given: it goes on with a digit,
and a lone zero stays in front of a point or of nothing. -/
def afterZeros? (last : Char) : List Char → Option (List Char)
  | [] => some [last]
  | c :: rest =>
    if c = '0' ∨ c = '_' then afterZeros? c rest
    else if c.isDigit then some (c :: rest)
    else if c = '.' then some (last :: c :: rest)
    else none

/-- Drops leading zeros, with underscores among them; a negative number has none to drop. -/
def dropLeadingZeros? : List Char → Option (List Char)
  | '0' :: rest => afterZeros? '0' rest
  | '-' :: rest => some ('-' :: rest)
  | c :: rest => if c.isDigit then some (c :: rest) else none
  | [] => none

/-- Digits without a leading zero, or zero itself. -/
def plainNatural? : List Char → Option Nat
  | ['0'] => some 0
  | [] => none
  | first :: rest =>
    if first != '0' && (first :: rest).all Char.isDigit then
      some (Decimal.naturalOf (first :: rest))
    else none

/-- An integer in its plain form: digits, behind a minus when it is negative. -/
def plainInteger? : List Char → Option Int
  | '-' :: digits => (plainNatural? digits).map fun n => -(n : Int)
  | digits => (plainNatural? digits).map fun n => (n : Int)

/-- Drops a plus, behind which no other sign may stand. -/
def dropPlus? : List Char → Option (List Char)
  | '+' :: '-' :: _ => none
  | '+' :: rest => some rest
  | cs => some cs

/-- The integer that a text writes, with blanks around it, a sign, leading zeros, grouping
underscores and a fraction of zeros all allowed. -/
def integerOfText? (cs : List Char) : Option Int :=
  match (dropPlus? (Text.trimBlanks cs)).bind dropLeadingZeros? with
  | none => none
  | some body => plainInteger? (dropGrouping (dropZeroFraction body))

/-- Texts longer than this are not read as integers. -/
def longestInteger : Nat := 4300

def integerOfText (s : String) : Check Int :=
  if longestInteger < s.length then reject .oversizedInteger
  else match integerOfText? s.toList with
    | some n => .pass n
    | none => reject .unreadableInteger

/-- The integers that a double may stand for lie strictly between these. -/
def wordBound : Int := 9223372036854775808

/-- A double is an integer when nothing stands behind its point. -/
def integerOfFloat (x : Float) : Check Int :=
  match Decimal.readFloat x with
  | .finite b =>
    if !b.isIntegral then reject .fractionalInteger
    else
      let n := b.truncate
      if -wordBound < n ∧ n < wordBound then .pass n else reject .oversizedInteger
  | _ => reject .nonFiniteInteger

/-- An integer, a truth value as 0 or 1, a whole double, or digits in text or bytes. -/
def lenientInt : Value → Check Int
  | .int n => .pass n
  | .bool b => .pass (if b then 1 else 0)
  | .float x => integerOfFloat x
  | .text s => integerOfText s
  | .bytes bs =>
    match Text.ofUtf8? bs with
    | some s => integerOfText s
    | none => reject .unreadableInteger
  | _ => reject .notInteger

/-- An integer that is not below a bound. -/
def atLeast (minimum : Int) (n : Int) : Check Int :=
  if minimum ≤ n then .pass n else reject (.belowMinimum minimum)

/-! ### Truth values -/

def falseWords : List String := ["0", "off", "f", "false", "n", "no"]

def trueWords : List String := ["1", "on", "t", "true", "y", "yes"]

/-- Words for truth values are read in any case, but without blanks around them. -/
def boolOfText (s : String) : Check Bool :=
  let word := String.ofList (Decimal.lowered s.toList)
  if falseWords.contains word then .pass false
  else if trueWords.contains word then .pass true
  else reject .unreadableBoolean

def boolOfInt (n : Int) : Check Bool :=
  if n = 0 then .pass false else if n = 1 then .pass true else reject .unreadableBoolean

def lenientBool : Value → Check Bool
  | .bool b => .pass b
  | .text s => boolOfText s
  | .bytes bs =>
    match Text.ofUtf8? bs with
    | some s => boolOfText s
    | none => reject .unreadableBoolean
  | .int n => if -wordBound ≤ n ∧ n < wordBound then boolOfInt n else reject .notBoolean
  | .float x =>
    match integerOfFloat x with
    | .pass n => boolOfInt n
    | .fail _ => reject .notBoolean
  | _ => reject .notBoolean

/-! ### Doubles and text -/

/-- A numeral with blanks around it, or one with grouping underscores. -/
def floatOfText (s : String) : Check Float :=
  match Decimal.read? (Text.trimBlanks s.toList), Decimal.read? (dropGrouping s.toList) with
  | some x, _ => .pass x
  | none, some x => .pass x
  | none, none => reject .unreadableNumber

/-- A double, an integer within their range, a truth value as 0 or 1, or a numeral in text. -/
def lenientFloat : Value → Check Float
  | .float x => .pass x
  | .int n =>
    let x := Float.ofInt n
    if x.isInf then reject .notNumber else .pass x
  | .bool b => .pass (if b then 1.0 else 0.0)
  | .text s => floatOfText s
  | .bytes bs =>
    match Text.ofUtf8? bs with
    | some s => floatOfText s
    | none => reject .unreadableNumber
  | _ => reject .notNumber

/-- Text, or bytes that encode one. -/
def lenientText : Value → Check String
  | .text s => .pass s
  | .bytes bs =>
    match Text.ofUtf8? bs with
    | some s => .pass s
    | none => reject .notUtf8
  | _ => reject .notText

/-- One of a few texts, each standing for a value. -/
def oneOf {α : Type} (choices : List (String × α)) : Value → Check α
  | .text s =>
    match choices.lookup s with
    | some a => .pass a
    | none => reject (.notAmong (choices.map Prod.fst))
  | _ => reject (.notAmong (choices.map Prod.fst))

/-- Something that can be called. -/
def callable : Value → Check Unit
  | .callable => .pass ()
  | _ => reject .notCallable

/-- Items of a list, a tuple or a set, each held to a check. -/
def listOf {α : Type} (check : Value → Check α) : Value → Check (List α)
  | .list items | .tuple items | .set items => Check.items check 0 items
  | _ => reject .notList

end Playbook.Schema
