import Playbook.Text.Printable

/-!
Text between quotes, as messages and printed values show it. Single quotes are used unless the
text holds a single quote and no double one; the quote in use and the backslash are escaped, and
so is every character that does not show on a page.
-/

namespace Playbook.Text

/-- One hexadecimal digit, in lower case. -/
def hexDigit (n : Nat) : Char := Nat.digitChar (n % 16)

/-- The last `width` hexadecimal digits of a number. -/
def hexFixed : Nat → Nat → List Char
  | 0, _ => []
  | width + 1, n => hexFixed width (n / 16) ++ [hexDigit n]

/-- A code point in the shortest of the forms with two, four and eight digits. -/
def escapeCode (n : Nat) : List Char :=
  if n < 0x100 then '\\' :: 'x' :: hexFixed 2 n
  else if n < 0x10000 then '\\' :: 'u' :: hexFixed 4 n
  else '\\' :: 'U' :: hexFixed 8 n

/-- The character of a code point. Half of a pair is no character: one that stands alone is
replaced. -/
def charOfCode (n : Nat) : Char :=
  if 0xd800 ≤ n ∧ n < 0xe000 then '\uFFFD' else Char.ofNat n

/-- The quote that needs the fewest escapes; a single one when in doubt. -/
def chooseQuote (cs : List Char) : Char :=
  if cs.contains '\'' && !cs.contains '"' then '"' else '\''

/-- One character of quoted text. -/
def quoteChar (quote c : Char) : List Char :=
  if c = quote ∨ c = '\\' then ['\\', c]
  else if c = '\n' then ['\\', 'n']
  else if c = '\r' then ['\\', 'r']
  else if c = '\t' then ['\\', 't']
  else if isPrintable c then [c]
  else escapeCode c.toNat

/-- Text between quotes. -/
def quoted (s : String) : String :=
  let cs := s.toList
  let quote := chooseQuote cs
  String.ofList (quote :: cs.flatMap (quoteChar quote) ++ [quote])

/-- One byte of a quoted byte string; only ASCII shows as itself. -/
def quoteByte (quote : Char) (b : UInt8) : List Char :=
  let c := Char.ofNat b.toNat
  if c = quote ∨ c = '\\' then ['\\', c]
  else if c = '\n' then ['\\', 'n']
  else if c = '\r' then ['\\', 'r']
  else if c = '\t' then ['\\', 't']
  else if 0x20 ≤ b.toNat ∧ b.toNat < 0x7f then [c]
  else '\\' :: 'x' :: hexFixed 2 b.toNat

/-- A byte string between quotes, marked by a leading `b`. -/
def quotedBytes (bytes : List UInt8) : String :=
  let quote := chooseQuote (bytes.map fun b => Char.ofNat b.toNat)
  String.ofList ('b' :: quote :: bytes.flatMap (quoteByte quote) ++ [quote])

end Playbook.Text
