import Playbook.Yaml.Node
import Playbook.Text.Digit
import Playbook.Value
import Playbook.Decimal.Numeral

/-!
Scalars as values of the type that their tag names.
-/

namespace Playbook.Yaml

/-- The text of a number without grouping underscores. -/
def ungrouped (text : String) : List Char := text.toList.filter (· != '_')

namespace Number

/-- White space that may stand around the digits of a number. -/
def isPad (c : Char) : Bool := Text.isBlank c || (0x1c ≤ c.toNat && c.toNat ≤ 0x1f)

/-- The text without pads around it and with all digits in ASCII. -/
def trimmed (cs : List Char) : List Char :=
  (((cs.dropWhile isPad).reverse.dropWhile isPad).reverse).map Text.plainDigit

/-- The value of a digit, for bases up to 36. -/
def digitIn (c : Char) : Nat :=
  if c.isDigit then c.toNat - '0'.toNat
  else if c.isLower then c.toNat - 'a'.toNat + 10
  else if c.isUpper then c.toNat - 'A'.toNat + 10
  else 36

/-- The letter that may mark a base behind a zero. -/
def baseMark : Nat → Option Char
  | 2 => some 'b'
  | 8 => some 'o'
  | 16 => some 'x'
  | _ => none

/-- Drops a mark of the base in front of the digits. -/
def dropBaseMark (base : Nat) (cs : List Char) : List Char :=
  match cs with
  | '0' :: m :: rest => if some m.toLower = baseMark base then rest else cs
  | cs => cs

/-- Decimal numbers longer than this are refused. -/
def longest : Nat := 4300

/-- An integer in a base: blanks around it, a sign and a mark of the base are allowed. -/
def integer? (base : Nat) (cs : List Char) : Option Int :=
  let (negative, body) := Decimal.takeSign (trimmed cs)
  let digits := dropBaseMark base body
  if digits.isEmpty ∨ digits.any (fun c => decide (base ≤ digitIn c)) then none
  else if base = 10 ∧ longest < digits.length then none
  else
    let n : Int := digits.foldl (fun n c => base * n + digitIn c) (0 : Nat)
    some (if negative then -n else n)

/-- A double, with blanks around it allowed. -/
def double? (cs : List Char) : Option Float := Decimal.read? (trimmed cs)

/-- All parts, each read by a function; none when one cannot be read. -/
def all? {α : Type} (read : List Char → Option α) : List (List Char) → Option (List α)
  | [] => some []
  | p :: rest =>
    match read p, all? read rest with
    | some a, some as => some (a :: as)
    | _, _ => none

end Number

def misfit {α : Type} (kind : Misfit) : Except Problem α := .error (.misfit kind)

def orMisfit {α : Type} (kind : Misfit) : Option α → Except Problem α
  | some a => .ok a
  | none => misfit kind

/-- An integer: binary, octal, hexadecimal, in sixtieths, or decimal. -/
def integerOf (text : String) : Except Problem Int :=
  let cs := ungrouped text
  let (negative, body) := Decimal.takeSign cs
  let signed := fun n : Int => if negative then -n else n
  if cs.isEmpty then misfit .tooShort
  else if body = ['0'] then .ok 0
  else match body with
    | [] => misfit .tooShort
    | '0' :: 'b' :: digits => (orMisfit .value (Number.integer? 2 digits)).map signed
    | '0' :: 'x' :: digits => (orMisfit .value (Number.integer? 16 digits)).map signed
    | '0' :: _ => (orMisfit .value (Number.integer? 8 body)).map signed
    | _ =>
      if body.contains ':' then
        (orMisfit .value (Number.all? (Number.integer? 10) (Implicit.colonParts body))).map
          fun parts => signed (parts.foldl (fun n p => 60 * n + p) 0)
      else (orMisfit .value (Number.integer? 10 body)).map signed

/-- Sixtieths summed from the last part on. -/
def sumSixtieths : List Float → Float → Float → Float
  | [], _, sum => sum
  | x :: rest, base, sum => sumSixtieths rest (base * 60.0) (sum + x * base)

/-- A double, in any case: infinity, not a number, in sixtieths, or decimal. -/
def floatOf (text : String) : Except Problem Float :=
  let cs := Decimal.lowered (ungrouped text)
  let (negative, body) := Decimal.takeSign cs
  let signed := fun x : Float => if negative then -x else x
  if cs.isEmpty then misfit .tooShort
  else if body = ".inf".toList then .ok (signed (1.0 / 0.0))
  else if body = ".nan".toList then .ok (0.0 / 0.0)
  else if body.contains ':' then
    (orMisfit .value (Number.all? Number.double? (Implicit.colonParts body))).map
      fun parts => signed (sumSixtieths parts.reverse 1.0 0.0)
  else (orMisfit .value (Number.double? body)).map signed

/-- The words for truth values, in any case. -/
def boolOf (text : String) : Except Problem Bool :=
  let word := String.ofList (Decimal.lowered text.toList)
  if ["yes", "true", "on"].contains word then .ok true
  else if ["no", "false", "off"].contains word then .ok false
  else misfit .word

namespace Base64

/-- The value of a digit in base 64. -/
def digit? (c : Char) : Option Nat :=
  if c.isUpper then some (c.toNat - 'A'.toNat)
  else if c.isLower then some (c.toNat - 'a'.toNat + 26)
  else if c.isDigit then some (c.toNat - '0'.toNat + 52)
  else if c = '+' then some 62
  else if c = '/' then some 63
  else none

/-- Reads digits four at a time. `place` counts the digits of the current group, `left` holds the
bits that no byte has taken yet, and `pads` counts padding. Characters that are no digits are
skipped, and enough padding ends the data. -/
def decodeFrom : List Char → Nat → Nat → Nat → List UInt8 → Except String (List UInt8)
  | [], place, _, _, out =>
    if place = 0 then .ok out.reverse
    else if place = 1 then
      .error ("Invalid base64-encoded string: number of data characters (" ++
        toString (out.length / 3 * 4 + 1) ++ ") cannot be 1 more than a multiple of 4")
    else .error "Incorrect padding"
  | c :: rest, place, left, pads, out =>
    if c = '=' then
      let pads := if 2 ≤ place then pads + 1 else pads
      if 2 ≤ place ∧ 4 ≤ place + pads then .ok out.reverse
      else decodeFrom rest place left pads out
    else match digit? c with
      | none => decodeFrom rest place left pads out
      | some d =>
        if place = 0 then decodeFrom rest 1 d 0 out
        else if place = 1 then
          decodeFrom rest 2 (d % 16) 0 (UInt8.ofNat (left * 4 + d / 16) :: out)
        else if place = 2 then
          decodeFrom rest 3 (d % 4) 0 (UInt8.ofNat (left * 16 + d / 4) :: out)
        else decodeFrom rest 0 0 0 (UInt8.ofNat (left * 64 + d) :: out)

end Base64

/-- Bytes in base 64, written in ASCII. -/
def bytesOf (text : String) : Except Problem (List UInt8) :=
  let cs := text.toList
  let isAscii := fun c : Char => c.toNat < 128
  match cs.dropWhile isAscii with
  | c :: rest =>
    let run := (c :: rest).takeWhile fun ch => !isAscii ch
    .error (.notAscii c (cs.takeWhile isAscii).length run.length)
  | [] =>
    match Base64.decodeFrom cs 0 0 0 [] with
    | .ok bytes => .ok bytes
    | .error detail => .error (.badBase64 detail)

/-- The zone that a text behind a time names. -/
def zoneOf (cs : List Char) : Zone :=
  match cs with
  | [] => .unstated
  | '+' :: rest | '-' :: rest =>
    let (hour, rest) := TimeParts.oneOrTwo rest
    let minutes : Int := 60 * Decimal.naturalOf hour + Decimal.naturalOf (rest.drop 1)
    .offset (if cs.head? = some '-' then -minutes else minutes)
  | _ => .universal

/-- Offsets stay below a day. -/
def zoneExists : Zone → Bool
  | .offset minutes => minutes.natAbs < 24 * 60
  | _ => true

/-- A date, or a date with a time of day; digits of a fraction beyond six are dropped. -/
def timestampOf (text : String) : Except Problem Value :=
  match TimeParts.ofChars? (withoutFinalBreak text.toList) with
  | none => misfit .form
  | some p =>
    let date : Date :=
      ⟨Decimal.naturalOf p.year, Decimal.naturalOf p.month, Decimal.naturalOf p.day⟩
    match p.time with
    | none => if date.exists? then .ok (.date date) else misfit .value
    | some (hour, minute, second, fraction, zone) =>
      let digits := fraction.take 6
      let micro := Decimal.naturalOf (digits ++ List.replicate (6 - digits.length) '0')
      let moment : Moment :=
        ⟨date, Decimal.naturalOf hour, Decimal.naturalOf minute, Decimal.naturalOf second, micro,
          zoneOf zone⟩
      if zoneExists moment.zone && moment.exists? then .ok (.moment moment) else misfit .value

end Playbook.Yaml
