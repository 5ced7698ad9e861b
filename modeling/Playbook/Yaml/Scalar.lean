import Playbook.Yaml.Cursor

/-!
The text of scalars: plain, quoted, and in blocks. Line breaks inside a scalar are folded by the
rules of its style.
-/

namespace Playbook.Yaml

open Scanner

def isHex (c : Char) : Bool :=
  c.isDigit || ('a' ≤ c && c ≤ 'f') || ('A' ≤ c && c ≤ 'F')

def hexNumber (cs : List Char) : Nat :=
  cs.foldl (fun n c =>
    16 * n + (if c.isDigit then c.toNat - '0'.toNat else (c.toLower.toNat - 'a'.toNat) + 10)) 0

/-! ### Quoted scalars -/

def quotedScalar : String := "a quoted scalar"

/-- What a backslash and one character stand for in double quotes. -/
def escape? : Char → Option Char
  | '0' => some '\x00'
  | 'a' => some '\x07'
  | 'b' => some '\x08'
  | 't' => some '\t'
  | '\t' => some '\t'
  | 'n' => some '\n'
  | 'v' => some '\x0b'
  | 'f' => some '\x0c'
  | 'r' => some '\r'
  | 'e' => some '\x1b'
  | ' ' => some ' '
  | '"' => some '"'
  | '\\' => some '\\'
  | '/' => some '/'
  | 'N' => some '\u0085'
  | '_' => some '\u00a0'
  | 'L' => some '\u2028'
  | 'P' => some '\u2029'
  | _ => none

/-- How many hexadecimal digits follow the letter of a numeric escape. -/
def escapeWidth? : Char → Option Nat
  | 'x' => some 2
  | 'u' => some 4
  | 'U' => some 8
  | _ => none

/-- Blank lines inside a quoted scalar, as their breaks. -/
def quotedBreaks : Nat → Scanner (List Char)
  | 0 => return []
  | fuel + 1 => do
    if (← get).atSeparator then fail (.scanning quotedScalar)
    let _ ← takeWhile (fun c => c == ' ' || c == '\t')
    match ← lineBreak with
    | some b => return b :: (← quotedBreaks fuel)
    | none => return []

/-- The character of a numeric escape. -/
def numericEscape (width : Nat) : Scanner (List Char) := do
  let c ← get
  let digits := c.rest.take width
  if digits.length = width ∧ digits.all isHex then
    forward width
    let code := hexNumber digits
    if 0x7fffffff < code then fail (.misfit .overflow)
    else if 0x10ffff < code then fail (.misfit .value)
    else return [Text.charOfCode code]
  else fail (.scanning "a double-quoted scalar")

/-- The characters up to the next blank or closing quote. -/
def quotedWord (double : Bool) : Nat → Scanner (List Char)
  | 0 => return []
  | fuel + 1 => do
    let run ← takeWhile fun c =>
      !(c == '\'' || c == '"' || c == '\\' || c == ' ' || c == '\t' || isBreak c)
    let c ← get
    match double, c.peek with
    | false, some '\'' =>
      if c.peekAt 1 = some '\'' then
        forward 2
        return run ++ '\'' :: (← quotedWord double fuel)
      else return run
    | false, some '"' =>
      forward 1
      return run ++ '"' :: (← quotedWord double fuel)
    | false, some '\\' =>
      forward 1
      return run ++ '\\' :: (← quotedWord double fuel)
    | true, some '\'' =>
      forward 1
      return run ++ '\'' :: (← quotedWord double fuel)
    | true, some '\\' =>
      forward 1
      match ← peek with
      | none => fail (.scanning "a double-quoted scalar")
      | some e =>
        match escape? e, escapeWidth? e with
        | some ch, _ =>
          forward 1
          return run ++ ch :: (← quotedWord double fuel)
        | none, some width =>
          forward 1
          let chars ← numericEscape width
          return run ++ chars ++ (← quotedWord double fuel)
        | none, none =>
          if isBreak e then
            let _ ← lineBreak
            let breaks ← quotedBreaks (c.rest.length + 1)
            return run ++ breaks ++ (← quotedWord double fuel)
          else fail (.scanning "a double-quoted scalar")
    | _, _ => return run

/-- The blanks between two words: a single line break is a space, further ones stay. -/
def quotedSpaces : Scanner (List Char) := do
  let blanks ← takeWhile (fun c => c == ' ' || c == '\t')
  match ← peek with
  | none => fail (.scanning quotedScalar)
  | some _ =>
    match ← lineBreak with
    | none => return blanks
    | some b =>
      let breaks ← quotedBreaks ((← get).rest.length + 1)
      let first := if b ≠ '\n' then [b] else if breaks.isEmpty then [' '] else []
      return first ++ breaks

/-- Words and the blanks between them, up to the closing quote. -/
def quotedRest (quote : Char) : Nat → Scanner (List Char)
  | 0 => fail (.scanning quotedScalar)
  | fuel + 1 => do
    if (← peek) = some quote then
      forward 1
      return []
    let spaces ← quotedSpaces
    let word ← quotedWord (quote == '"') ((← get).rest.length + 1)
    return spaces ++ word ++ (← quotedRest quote fuel)

/-- A scalar between quotes. -/
def quotedText (quote : Char) : Scanner (List Char) := do
  forward 1
  let size := (← get).rest.length + 1
  let word ← quotedWord (quote == '"') size
  return word ++ (← quotedRest quote size)

/-! ### Plain scalars -/

/-- What a plain scalar may hold inside brackets and outside of them, given what follows. -/
def endsPlain (inFlow : Bool) (ch : Char) (following : Option Char) : Bool :=
  ch == ' ' || ch == '\t' || isBreak ch ||
    (ch == ':' && (endsToken following ||
      (inFlow && [',', '[', ']', '\x7b', '\x7d'].contains (following.getD ' ')))) ||
    (inFlow && [',', '?', '[', ']', '\x7b', '\x7d'].contains ch)

/-- The run of plain characters that a text starts with. -/
def plainRun (inFlow : Bool) : List Char → List Char
  | [] => []
  | ch :: rest => if endsPlain inFlow ch rest.head? then [] else ch :: plainRun inFlow rest

/-- The blank lines behind a line of a plain scalar, as their breaks; `none` when a line that
separates documents comes up. -/
def plainBreaks : Nat → Scanner (Option (List Char))
  | 0 => return some []
  | fuel + 1 => do
    let _ ← takeWhile isSpace
    match ← lineBreak with
    | none => return some []
    | some b =>
      if (← get).atSeparator then return none
      return (← plainBreaks fuel).map (b :: ·)

/-- Blanks behind a plain run: the folded text, and whether a line ended. -/
def plainSpaces : Scanner (List Char × Bool) := do
  let blanks ← takeWhile isSpace
  match ← lineBreak with
  | none => return (blanks, false)
  | some b =>
    if (← get).atSeparator then return ([], true)
    match ← plainBreaks ((← get).rest.length + 1) with
    | none => return ([], true)
    | some breaks =>
      let first := if b ≠ '\n' then [b] else if breaks.isEmpty then [' '] else []
      return (first ++ breaks, true)

/-- Plain runs joined by folded blanks, and whether the blanks behind the last run ended a line.
A scalar outside brackets goes on only while it is indented. -/
def plainRuns (inFlow : Bool) (indent : Int) : Nat → List Char → Bool → Scanner (List Char × Bool)
  | 0, _, ended => return ([], ended)
  | fuel + 1, spaces, ended => do
    let c ← get
    if c.peek = some '#' then return ([], ended)
    let run := plainRun inFlow c.rest
    if run.isEmpty then return ([], ended)
    forward run.length
    let (blanks, brokeLine) ← plainSpaces
    let here ← get
    if blanks.isEmpty || here.peek == some '#' || (!inFlow && (here.column : Int) < indent) then
      return (spaces ++ run, brokeLine)
    let (more, laterEnded) ← plainRuns inFlow indent fuel blanks brokeLine
    return (spaces ++ run ++ more, laterEnded)

/-- A plain scalar, and whether the blanks behind it ended a line. -/
def plainText (inFlow : Bool) (indent : Int) : Scanner (List Char × Bool) := do
  plainRuns inFlow indent ((← get).rest.length + 1) [] false

/-! ### Scalars in blocks -/

/-- What happens to the line breaks at the end of a block. -/
inductive Chomping where
  | strip
  | clip
  | keep
  deriving Repr, DecidableEq

def blockScalar : String := "a block scalar"

def chompingOf (c : Char) : Chomping := if c = '+' then .keep else .strip

/-- An indentation indicator, which is not zero. -/
def blockIncrement (d : Char) : Scanner Nat := do
  if d = '0' then fail (.scanning blockScalar)
  forward 1
  return d.toNat - '0'.toNat

/-- The indicators in the header of a block. -/
def blockHeader : Scanner (Chomping × Option Nat) := do
  let found ← match ← peek with
    | some c =>
      if c = '+' ∨ c = '-' then do
        forward 1
        match ← peek with
        | some d => do
          if d.isDigit then
            let n ← blockIncrement d
            pure (chompingOf c, some n)
          else pure (chompingOf c, none)
        | none => pure (chompingOf c, none)
      else if c.isDigit then do
        let n ← blockIncrement c
        match ← peek with
        | some d => do
          if d = '+' ∨ d = '-' then
            forward 1
            pure (chompingOf d, some n)
          else pure (.clip, some n)
        | none => pure (.clip, some n)
      else pure (.clip, none)
    | none => pure (.clip, none)
  if endsWord (← peek) then return found
  else fail (.scanning blockScalar)

/-- Past spaces while the column is below the indentation. -/
def indentTo (indent : Nat) : Scanner Unit := do
  let c ← get
  let _ ← takeWhileUpTo (indent - c.column)
where
  takeWhileUpTo (most : Nat) : Scanner (List Char) := do
    let c ← get
    let run := (c.rest.take most).takeWhile isSpace
    forward run.length
    return run

/-- Blank lines inside a block, as their breaks. -/
def blockBreaks (indent : Nat) : Nat → Scanner (List Char)
  | 0 => return []
  | fuel + 1 => do
    indentTo indent
    match ← lineBreak with
    | none => return []
    | some b => return b :: (← blockBreaks indent fuel)

/-- Blank lines in front of a block, as their breaks, and the widest column among them. -/
def blockLead : Nat → Nat → Scanner (List Char × Nat)
  | 0, widest => return ([], widest)
  | fuel + 1, widest => do
    let spaces ← takeWhile isSpace
    let c ← get
    let widest := if spaces.isEmpty then widest else max widest c.column
    match ← lineBreak with
    | none => return ([], widest)
    | some b =>
      let (more, widest) ← blockLead fuel widest
      return (b :: more, widest)

def isBlankChar (c : Option Char) : Bool := c == some ' ' || c == some '\t'

/-- The lines of a block. The breaks behind a line are folded into a space when the style folds,
a single line feed is meant, and neither line around it starts with a blank. -/
def blockLines (folded : Bool) (chomping : Chomping) (indent : Nat) :
    Nat → List Char → List Char → Scanner (List Char)
  | 0, _, _ => return []
  | fuel + 1, breaks, ending => do
    let c ← get
    let finish := (if chomping = .strip then [] else ending) ++
      (if chomping = .keep then breaks else [])
    if c.column ≠ indent ∨ c.peek = none then return finish
    let plainStart := !isBlankChar c.peek
    let text ← takeWhile (fun ch => !isBreak ch)
    let ending := ((← lineBreak).map fun b => [b]).getD []
    let after ← blockBreaks indent ((← get).rest.length + 1)
    let here ← get
    if here.column = indent ∧ here.peek ≠ none then
      let joint :=
        if folded && ending == ['\n'] && plainStart && !isBlankChar here.peek then
          (if after.isEmpty then [' '] else [])
        else ending
      return breaks ++ text ++ joint ++ (← blockLines folded chomping indent fuel after ending)
    else
      let finish := (if chomping = .strip then [] else ending) ++
        (if chomping = .keep then after else [])
      return breaks ++ text ++ finish

/-- A scalar in a block, indented deeper than what it belongs to. -/
def blockText (folded : Bool) (parentIndent : Int) : Scanner (List Char) := do
  forward 1
  let (chomping, increment) ← blockHeader
  ignoredLine blockScalar
  let least := max 1 (parentIndent + 1).toNat
  let size := (← get).rest.length + 1
  let (breaks, indent) ← match increment with
    | none => do
      let (breaks, widest) ← blockLead size 0
      pure (breaks, max least widest)
    | some n => do
      let indent := least + n - 1
      let breaks ← blockBreaks indent size
      pure (breaks, indent)
  blockLines folded chomping indent size breaks []

end Playbook.Yaml
