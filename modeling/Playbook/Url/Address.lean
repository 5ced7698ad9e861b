/-!
Numeric hosts: addresses of four parts written in any of three bases, and addresses of eight groups
between brackets.
-/

namespace Playbook.Url

/-- Splits at every occurrence of a separator; there is always one piece more than separators. -/
def splitAt (separator : Char) : List Char → List (List Char)
  | [] => [[]]
  | c :: rest =>
    let pieces := splitAt separator rest
    if c = separator then [] :: pieces
    else match pieces with
      | [] => [[c]]
      | first :: others => (c :: first) :: others

def isHexDigit (c : Char) : Bool :=
  c.isDigit || ('a' ≤ c && c ≤ 'f') || ('A' ≤ c && c ≤ 'F')

def hexValue (c : Char) : Nat :=
  if c.isDigit then c.toNat - '0'.toNat
  else if 'a' ≤ c ∧ c ≤ 'f' then c.toNat - 'a'.toNat + 10
  else c.toNat - 'A'.toNat + 10

/-- The number that digits of a base write. -/
def numberIn (base : Nat) (digits : List Char) : Nat :=
  digits.foldl (fun n c => base * n + hexValue c) 0

/-- A part of a numeric host: hexadecimal behind `0x`, octal behind another leading zero, decimal
otherwise. A mark without digits is zero. -/
def part? (cs : List Char) : Option Nat :=
  match cs with
  | [] => none
  | '0' :: 'x' :: digits | '0' :: 'X' :: digits =>
    if digits.all isHexDigit then some (numberIn 16 digits) else none
  | '0' :: d :: rest =>
    let digits := d :: rest
    if digits.all (fun c => '0' ≤ c && c ≤ '7') then some (numberIn 8 digits) else none
  | digits => if digits.all Char.isDigit then some (numberIn 10 digits) else none

/-- The parts of a host between points, without an empty last one. -/
def hostParts (cs : List Char) : List (List Char) :=
  let parts := splitAt '.' cs
  if 1 < parts.length ∧ parts.getLast? = some [] then parts.dropLast else parts

/-- Whether the last part of a host is a number, so that all of it has to be an address. -/
def endsInNumber (cs : List Char) : Bool :=
  match (hostParts cs).getLast? with
  | none => false
  | some last => (!last.isEmpty && last.all Char.isDigit) || (part? last).isSome

/-- Whether a host is an address of up to four parts: each but the last is a byte, and the last
fills the bytes that are left. -/
def isFourPartAddress (cs : List Char) : Bool :=
  let parts := hostParts cs
  if 4 < parts.length then false
  else
    let numbers := parts.filterMap part?
    if numbers.length ≠ parts.length then false
    else match numbers.getLast? with
      | none => false
      | some last =>
        numbers.dropLast.all (· ≤ 255) && last < Nat.pow 256 (5 - numbers.length)

/-- Whether text is four decimal bytes without leading zeros. -/
def isDottedQuad (cs : List Char) : Bool :=
  let parts := splitAt '.' cs
  parts.length == 4 && parts.all fun p =>
    !p.isEmpty && p.length ≤ 3 && p.all Char.isDigit && numberIn 10 p ≤ 255 &&
      (p.length == 1 || p.head? != some '0')

/-- How many groups of two bytes a row of pieces between colons fills; a dotted quad may stand in
the last place and fills two. -/
def groups? : List (List Char) → Option Nat
  | [] => some 0
  | p :: rest =>
    if !p.isEmpty && p.length ≤ 4 && p.all isHexDigit then (groups? rest).map (· + 1)
    else if rest.isEmpty && isDottedQuad p then some 2
    else none

/-- The halves of a text before and after its first double colon. -/
def splitAtGap : List Char → Option (List Char × List Char)
  | [] => none
  | ':' :: ':' :: rest => some ([], rest)
  | c :: rest => (splitAtGap rest).map fun (a, b) => (c :: a, b)

/-- The pieces between single colons; none when the text is empty. -/
def colonPieces (cs : List Char) : List (List Char) :=
  if cs.isEmpty then [] else splitAt ':' cs

/-- Whether text is an address of eight groups, where one double colon may stand for one or more
groups of zeros. -/
def isEightGroupAddress (cs : List Char) : Bool :=
  match splitAtGap cs with
  | none => groups? (colonPieces cs) == some 8
  | some (before, after) =>
    let front := colonPieces before
    if front.any (fun p => p.contains '.') then false
    else match groups? front, groups? (colonPieces after) with
      | some a, some b => decide (a + b ≤ 7)
      | _, _ => false

end Playbook.Url
