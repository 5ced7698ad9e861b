import Playbook.Yaml.Problem

/-!
Positions in a text, and the moves that scanning is made of. A position knows the text that is
left, and the line and column it stands at.
-/

namespace Playbook.Yaml

/-- Characters that end a line. -/
def isBreak (c : Char) : Bool :=
  c == '\r' || c == '\n' || c.toNat == 0x85 || c.toNat == 0x2028 || c.toNat == 0x2029

structure Cursor where
  rest : List Char
  index : Nat := 0
  line : Nat := 0
  column : Nat := 0

namespace Cursor

def ofText (cs : List Char) : Cursor := ⟨cs, 0, 0, 0⟩

/-- The character at the cursor. -/
def peek (c : Cursor) : Option Char := c.rest.head?

/-- The character a few places on. -/
def peekAt (c : Cursor) (n : Nat) : Option Char := c.rest[n]?

/-- Past one character. A line ends after its break; a carriage return before a line feed does not
end it yet, and a byte order mark takes no column. -/
def next (c : Cursor) : Cursor :=
  match c.rest with
  | [] => c
  | ch :: rest =>
    if isBreak ch && !(ch == '\r' && rest.head? == some '\n') then
      ⟨rest, c.index + 1, c.line + 1, 0⟩
    else if ch.toNat == 0xfeff then ⟨rest, c.index + 1, c.line, c.column⟩
    else ⟨rest, c.index + 1, c.line, c.column + 1⟩

def skip : Nat → Cursor → Cursor
  | 0, c => c
  | n + 1, c => skip n c.next

/-- The longest run of characters of a kind, and the cursor behind it. -/
def span (p : Char → Bool) (c : Cursor) : List Char × Cursor :=
  let run := c.rest.takeWhile p
  (run, c.skip run.length)

/-- Whether the text goes on with the given characters. -/
def startsWith (c : Cursor) (cs : List Char) : Bool := cs.isPrefixOf c.rest

/-- The line break at the cursor, folded to a line feed unless it separates lines or paragraphs. -/
def lineBreak? (c : Cursor) : Option (Char × Cursor) :=
  match c.rest with
  | '\r' :: '\n' :: _ => some ('\n', c.skip 2)
  | ch :: _ =>
    if isBreak ch then
      some (if ch.toNat == 0x2028 || ch.toNat == 0x2029 then ch else '\n', c.next)
    else none
  | [] => none

end Cursor

/-- The end of the text or a line break. -/
def endsLine : Option Char → Bool
  | none => true
  | some c => isBreak c

/-- The end of the text, a line break or a space. -/
def endsWord : Option Char → Bool
  | none => true
  | some c => c == ' ' || isBreak c

/-- The end of the text, a line break, a space or a tab. -/
def endsToken : Option Char → Bool
  | none => true
  | some c => c == ' ' || c == '\t' || isBreak c

/-- Whether a line that separates documents starts at the cursor. -/
def Cursor.atSeparator (c : Cursor) : Bool :=
  (c.startsWith ['-', '-', '-'] || c.startsWith ['.', '.', '.']) && endsToken (c.peekAt 3)

/-- Characters of the names of anchors, handles and directives. -/
def isWordChar (c : Char) : Bool := c.isAlphanum || c == '-' || c == '_'

def isSpace (c : Char) : Bool := c == ' '

/-- Scanning moves a cursor on, or finds a problem. -/
abbrev Scanner := StateT Cursor (Except Problem)

namespace Scanner

def peek : Scanner (Option Char) := return (← get).peek

def forward (n : Nat) : Scanner Unit := modify (·.skip n)

def takeWhile (p : Char → Bool) : Scanner (List Char) := do
  let (run, c) := (← get).span p
  set c
  return run

def fail {α : Type} (p : Problem) : Scanner α := throw p

/-- Past a line break, if there is one. -/
def lineBreak : Scanner (Option Char) := do
  match (← get).lineBreak? with
  | some (b, c) => set c; return some b
  | none => return none

/-- Past the rest of the line. -/
def restOfLine : Scanner Unit := do
  let _ ← takeWhile (fun c => !isBreak c)

/-- Past spaces and a comment to the end of the line, and past its break; nothing else may stand
there. -/
def ignoredLine (what : String) : Scanner Unit := do
  let _ ← takeWhile isSpace
  if (← peek) = some '#' then restOfLine
  if endsLine (← peek) then
    let _ ← lineBreak
  else fail (.scanning what)

end Scanner

end Playbook.Yaml
