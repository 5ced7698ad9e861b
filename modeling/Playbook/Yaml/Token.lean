import Playbook.Yaml.Scalar
import Playbook.Text.Blank

/-!
Tokens of YAML text. Indentation becomes explicit tokens, and a key that is recognised by the
colon behind it gets its token inserted in front after the fact. Tokens that come before every
key that is still undecided are final, also when the text breaks off later.
-/

namespace Playbook.Yaml

/-- A tag as written: the handle it is expanded by, if any, and the rest. -/
structure TagText where
  handle : Option String
  suffix : String
  deriving Repr, DecidableEq

inductive Token where
  | versionDirective (major : Nat)
  | tagDirective (handle start : String)
  | otherDirective
  | documentStart
  | documentEnd
  | streamEnd
  | blockSequenceStart
  | blockMappingStart
  | blockEnd
  | flowSequenceStart
  | flowSequenceEnd
  | flowMappingStart
  | flowMappingEnd
  | flowEntry
  | blockEntry
  | key
  | value
  | alias (name : String)
  | anchor (name : String)
  | tag (text : TagText)
  | scalar (text : String) (plain : Bool)
  deriving Repr, DecidableEq

/-- How messages name a token. -/
def Token.label : Token → String
  | .versionDirective _ | .tagDirective _ _ | .otherDirective => "<directive>"
  | .documentStart => "<document start>"
  | .documentEnd => "<document end>"
  | .streamEnd => "<stream end>"
  | .blockSequenceStart => "<block sequence start>"
  | .blockMappingStart => "<block mapping start>"
  | .blockEnd => "<block end>"
  | .flowSequenceStart => "["
  | .flowSequenceEnd => "]"
  | .flowMappingStart => "\x7b"
  | .flowMappingEnd => "\x7d"
  | .flowEntry => ","
  | .blockEntry => "-"
  | .key => "?"
  | .value => ":"
  | .alias _ => "<alias>"
  | .anchor _ => "<anchor>"
  | .tag _ => "<tag>"
  | .scalar _ _ => "<scalar>"

open Scanner

/-! ### Tokens with a text of their own -/

/-- The name behind `*` or `&`. -/
def anchorName (what : String) : Scanner String := do
  forward 1
  let name ← takeWhile isWordChar
  if name.isEmpty then fail (.scanning what)
  let following ← peek
  let closers := ['?', ':', ',', ']', '\x7d', '%', '@', '\x60']
  if endsToken following || closers.contains (following.getD ' ') then return String.ofList name
  else fail (.scanning what)

/-- Characters of tags, besides letters, digits and escapes. -/
def isTagChar (c : Char) : Bool :=
  c.isAlphanum || "-;/?:@&=+$,_.!~*'()[]".toList.contains c

/-- Bytes written as percent escapes. -/
def percentBytes (what : String) : Nat → Scanner (List UInt8)
  | 0 => return []
  | fuel + 1 => do
    let c ← get
    match c.rest with
    | '%' :: a :: b :: _ =>
      if isHex a && isHex b then
        forward 3
        return UInt8.ofNat (hexNumber [a, b]) :: (← percentBytes what fuel)
      else fail (.scanning what)
    | '%' :: _ => fail (.scanning what)
    | _ => return []

/-- The text of a tag, with its escapes decoded; some character has to be there. -/
def tagUri (noun : String) : Nat → Scanner (List Char)
  | 0 => return []
  | fuel + 1 => do
    let run ← takeWhile isTagChar
    if (← peek) = some '%' then
      let what := "a " ++ noun
      let bytes ← percentBytes what ((← get).rest.length + 1)
      match Text.ofUtf8? bytes with
      | none => fail (.scanning what)
      | some s => return run ++ s.toList ++ (← tagUri noun fuel)
    else return run

def requiredUri (noun : String) : Scanner (List Char) := do
  let start ← get
  let uri ← tagUri noun (start.rest.length + 1)
  if (← get).index = start.index then fail (.parsing ("a " ++ noun))
  return uri

/-- A handle: an exclamation mark, alone or with a second one behind a word. -/
def tagHandle (noun : String) : Scanner String := do
  let what := "a " ++ noun
  let c ← get
  if c.peek ≠ some '!' then fail (.scanning what)
  if c.peekAt 1 = some ' ' then
    forward 1
    return "!"
  forward 1
  let word ← takeWhile isWordChar
  if (← peek) = some '!' then
    forward 1
    return String.ofList ('!' :: word ++ ['!'])
  else fail (.scanning what)

/-- A tag: verbatim between angle brackets, a lone mark, or a handle and a suffix. -/
def tagText : Scanner TagText := do
  let c ← get
  let text ← match c.peekAt 1 with
    | some '<' => do
      forward 2
      let uri ← requiredUri "tag"
      if (← peek) = some '>' then
        forward 1
        pure (⟨none, String.ofList uri⟩ : TagText)
      else fail (.parsing "a tag")
    | following =>
      if endsToken following then do
        forward 1
        pure ⟨none, "!"⟩
      else do
        let word := (c.rest.drop 1).takeWhile fun ch => !(ch == ' ' || isBreak ch)
        let handle ← if word.contains '!' then tagHandle "tag" else do
          forward 1
          pure "!"
        let uri ← requiredUri "tag"
        pure ⟨some handle, String.ofList uri⟩
  if endsWord (← peek) then return text
  else fail (.scanning "a tag")

def directive : String := "a directive"

/-- A number in a directive. -/
def directiveNumber : Scanner Nat := do
  let digits ← takeWhile Char.isDigit
  if digits.isEmpty then fail (.scanning directive)
  return digits.foldl (fun n c => 10 * n + (c.toNat - '0'.toNat)) 0

def versionDirective : Scanner Token := do
  let _ ← takeWhile isSpace
  let major ← directiveNumber
  if (← peek) ≠ some '.' then fail (.scanning directive)
  forward 1
  let _ ← directiveNumber
  if endsWord (← peek) then return .versionDirective major
  else fail (.scanning directive)

def tagDirective : Scanner Token := do
  let _ ← takeWhile isSpace
  let handle ← tagHandle "directive"
  if (← peek) ≠ some ' ' then fail (.scanning directive)
  let _ ← takeWhile isSpace
  let start ← requiredUri "directive"
  if endsWord (← peek) then return .tagDirective handle (String.ofList start)
  else fail (.scanning directive)

/-- A directive and the rest of its line. -/
def directiveToken : Scanner Token := do
  forward 1
  let name ← takeWhile isWordChar
  if name.isEmpty || !endsWord (← peek) then fail (.scanning directive)
  let token ← match String.ofList name with
    | "YAML" => versionDirective
    | "TAG" => tagDirective
    | _ => do
      restOfLine
      pure .otherDirective
  ignoredLine directive
  return token

/-! ### The state between tokens -/

/-- A token that turns out to be a key if a colon follows it. -/
structure PossibleKey where
  /-- Its position among the tokens. -/
  position : Nat
  /-- It starts a line of a block, where only a key can stand. -/
  required : Bool
  index : Nat
  line : Nat
  column : Nat

/-- What has been scanned so far. -/
structure Lexer where
  cursor : Cursor
  tokens : Array Token := #[]
  /-- How many brackets are open. -/
  depth : Nat := 0
  indent : Int := -1
  indents : List Int := []
  keyAllowed : Bool := true
  /-- The possible keys, each with the depth of brackets that it stands at. -/
  keys : List (Nat × PossibleKey) := []

namespace Lexer

/-- A step of the lexer changes its state or finds a problem. -/
abbrev Step := Lexer → Except Problem Lexer

def push (l : Lexer) (t : Token) : Lexer := { l with tokens := l.tokens.push t }

/-- Runs a scanner at the cursor. -/
def scan {α : Type} (l : Lexer) (s : Scanner α) : Except Problem (α × Lexer) :=
  match s.run l.cursor with
  | .ok (a, c) => .ok (a, { l with cursor := c })
  | .error p => .error p

def missingColon : Problem := .scanning "a simple key"

/-- Past spaces, comments and line breaks. A key may start a line outside brackets. -/
def skipBlanks : Nat → Lexer → Lexer
  | 0, l => l
  | fuel + 1, l =>
    let (_, c) := l.cursor.span isSpace
    let c := if c.peek = some '#' then (c.span fun ch => !isBreak ch).2 else c
    match c.lineBreak? with
    | some (_, c) =>
      skipBlanks fuel { l with cursor := c, keyAllowed := l.keyAllowed || l.depth == 0 }
    | none => { l with cursor := c }

/-- A byte order mark at the very start does not count. -/
def skipMark (l : Lexer) : Lexer :=
  if l.cursor.index = 0 ∧ (l.cursor.peek.map Char.toNat) = some 0xfeff then
    { l with cursor := l.cursor.next }
  else l

/-- Gives up possible keys that the cursor has left behind: a key stands on one line and is not
longer than 1024 characters. -/
def dropStaleKeys : Step := fun l =>
  let isStale := fun k : PossibleKey =>
    k.line ≠ l.cursor.line ∨ 1024 < l.cursor.index - k.index
  if l.keys.any fun e => decide (isStale e.2) && e.2.required then .error missingColon
  else .ok { l with keys := l.keys.filter fun e => !decide (isStale e.2) }

/-- Gives up the possible key at the current depth. -/
def dropKey : Step := fun l =>
  match l.keys.lookup l.depth with
  | none => .ok l
  | some k =>
    if k.required then .error missingColon
    else .ok { l with keys := l.keys.filter fun e => e.1 ≠ l.depth }

/-- Notes that the next token may be a key. -/
def noteKey : Step := fun l =>
  if l.keyAllowed then
    match l.dropKey with
    | .error p => .error p
    | .ok l =>
      let key : PossibleKey :=
        { position := l.tokens.size
          required := l.depth == 0 && l.indent == (l.cursor.column : Int)
          index := l.cursor.index, line := l.cursor.line, column := l.cursor.column }
      .ok { l with keys := l.keys ++ [(l.depth, key)] }
  else .ok l

/-- Closes blocks that are indented deeper than a column. -/
def closeBlocks (column : Int) : List Int → Lexer → Lexer
  | [], l => l
  | outer :: rest, l =>
    if column < l.indent then
      closeBlocks column rest { l.push .blockEnd with indent := outer, indents := rest }
    else l

/-- Indentation counts only outside brackets. -/
def unwind (column : Int) (l : Lexer) : Lexer :=
  if l.depth = 0 then closeBlocks column l.indents l else l

/-- Opens a block at a column, and tells whether it is a new one. -/
def openBlock (column : Nat) (l : Lexer) : Bool × Lexer :=
  if l.indent < column then
    (true, { l with indents := l.indent :: l.indents, indent := column })
  else (false, l)

/-- Opens a block at the cursor, with a token in front when it is new. -/
def openBlockHere (start : Token) (l : Lexer) : Lexer :=
  let (new, l) := l.openBlock l.cursor.column
  if new then l.push start else l

def advance (n : Nat) (l : Lexer) : Lexer := { l with cursor := l.cursor.skip n }

def allowKey (allowed : Bool) (l : Lexer) : Lexer := { l with keyAllowed := allowed }

/-! ### One token at a time -/

def streamEnd : Step := fun l => do
  let l ← (l.unwind (-1)).dropKey
  return ({ l with keys := [] }.allowKey false).push .streamEnd

def directive : Step := fun l => do
  let l ← (l.unwind (-1)).dropKey
  let (token, l) ← (l.allowKey false).scan directiveToken
  return l.push token

def documentMark (token : Token) : Step := fun l => do
  let l ← (l.unwind (-1)).dropKey
  return ((l.allowKey false).advance 3).push token

def openFlow (token : Token) : Step := fun l => do
  let l ← l.noteKey
  return (({ l with depth := l.depth + 1 }.allowKey true).advance 1).push token

def closeFlow (token : Token) : Step := fun l => do
  let l ← l.dropKey
  return (({ l with depth := l.depth - 1 }.allowKey false).advance 1).push token

def flowEntry : Step := fun l => do
  let l ← (l.allowKey true).dropKey
  return (l.advance 1).push .flowEntry

def blockEntry : Step := fun l => do
  if l.depth = 0 ∧ l.keyAllowed = false then throw (.notAllowed "sequence entries")
  let l := if l.depth = 0 then l.openBlockHere .blockSequenceStart else l
  let l ← (l.allowKey true).dropKey
  return (l.advance 1).push .blockEntry

def explicitKey : Step := fun l => do
  if l.depth = 0 ∧ l.keyAllowed = false then throw (.notAllowed "mapping keys")
  let l := if l.depth = 0 then l.openBlockHere .blockMappingStart else l
  let l ← (l.allowKey (l.depth == 0)).dropKey
  return (l.advance 1).push .key

/-- Inserts a token in front of one that was scanned before. -/
def insertAt (position : Nat) (t : Token) (l : Lexer) : Lexer :=
  { l with tokens := l.tokens.insertIdxIfInBounds position t }

/-- A colon makes the possible key in front of it one; without such a key it belongs to an
explicit one. -/
def valueMark : Step := fun l =>
  match l.keys.lookup l.depth with
  | some k =>
    let l := { l with keys := l.keys.filter fun e => e.1 ≠ l.depth }
    let l := l.insertAt k.position .key
    let l :=
      if l.depth = 0 then
        let (new, l) := l.openBlock k.column
        if new then l.insertAt k.position .blockMappingStart else l
      else l
    .ok (((l.allowKey false).advance 1).push .value)
  | none => do
    if l.depth = 0 ∧ l.keyAllowed = false then throw (.notAllowed "mapping values")
    let l := if l.depth = 0 then l.openBlockHere .blockMappingStart else l
    let l ← (l.allowKey (l.depth == 0)).dropKey
    return (l.advance 1).push .value

/-- A token that may be a key, read by a scanner. -/
def keyable (s : Scanner Token) : Step := fun l => do
  let l ← l.noteKey
  let (token, l) ← (l.allowKey false).scan s
  return l.push token

def blockScalar (folded : Bool) : Step := fun l => do
  let l ← (l.allowKey true).dropKey
  let (text, l) ← l.scan (blockText folded l.indent)
  return l.push (.scalar (String.ofList text) false)

def plainScalar : Step := fun l => do
  let l ← l.noteKey
  let ((text, endedLine), l) ← (l.allowKey false).scan (plainText (l.depth != 0) (l.indent + 1))
  return (l.allowKey endedLine).push (.scalar (String.ofList text) true)

/-- What may not start a plain scalar. -/
def isIndicator (c : Char) : Bool :=
  "-?:,[]#&*!|>'\"%@".toList.contains c || c == '\x7b' || c == '\x7d' || c == '\x60'

def startsPlain (inFlow : Bool) (c : Char) (following : Option Char) : Bool :=
  !(isIndicator c || c == ' ' || c == '\t' || isBreak c) ||
    (!endsToken following && (c == '-' || (!inFlow && (c == '?' || c == ':'))))

/-- The next token, chosen by the character that the cursor stands at. -/
def fetchAt (c : Char) : Step := fun l =>
  let here := l.cursor
  let following := here.peekAt 1
  let inFlow := l.depth != 0
  let separated := endsToken following
  let atLineStart := here.column == 0
  if c == '%' && atLineStart then l.directive
  else if c == '-' && atLineStart && here.atSeparator then l.documentMark .documentStart
  else if c == '.' && atLineStart && here.atSeparator then l.documentMark .documentEnd
  else if c == '[' then l.openFlow .flowSequenceStart
  else if c == '\x7b' then l.openFlow .flowMappingStart
  else if c == ']' then l.closeFlow .flowSequenceEnd
  else if c == '\x7d' then l.closeFlow .flowMappingEnd
  else if c == ',' then l.flowEntry
  else if c == '-' && separated then l.blockEntry
  else if c == '?' && (inFlow || separated) then l.explicitKey
  else if c == ':' && (inFlow || separated) then l.valueMark
  else if c == '*' then l.keyable do return .alias (← anchorName "an alias")
  else if c == '&' then l.keyable do return .anchor (← anchorName "an anchor")
  else if c == '!' then l.keyable do return .tag (← tagText)
  else if c == '|' && !inFlow then l.blockScalar false
  else if c == '>' && !inFlow then l.blockScalar true
  else if c == '\'' || c == '"' then
    l.keyable do return .scalar (String.ofList (← quotedText c)) false
  else if startsPlain inFlow c following then l.plainScalar
  else .error (.scanning "for the next token")

/-- One more token, or several when blocks end. -/
def fetch : Step := fun l => do
  let l ← (skipBlanks (l.cursor.rest.length + 1) l.skipMark).dropStaleKeys
  let l := l.unwind l.cursor.column
  let l ← match l.cursor.peek with
    | none => l.streamEnd
    | some c => l.fetchAt c
  l.dropStaleKeys

/-- How many tokens are final: those before every possible key. -/
def settled (l : Lexer) : Nat :=
  l.keys.foldl (fun n e => min n e.2.position) l.tokens.size

end Lexer

/-- The tokens of a text up to its end or its first problem. -/
structure Tokens where
  tokens : List Token
  problem : Option Problem

/-- Fetches tokens until the stream ends or a problem comes up. -/
def Tokens.fetchAll : Nat → Lexer → Tokens
  | 0, l => ⟨l.tokens.toList, none⟩
  | fuel + 1, l =>
    match l.fetch with
    | .error p => ⟨l.tokens.toList.take l.settled, some p⟩
    | .ok l =>
      if l.tokens.back? = some .streamEnd then ⟨l.tokens.toList, none⟩
      else fetchAll fuel l

/-- Characters that a text may not hold at all. -/
def isAcceptable (c : Char) : Bool :=
  let n := c.toNat
  n == 9 || n == 0xa || n == 0xd || (0x20 ≤ n && n ≤ 0x7e) || n == 0x85 ||
    (0xa0 ≤ n && n ≤ 0xd7ff) || (0xe000 ≤ n && n ≤ 0xfffd) || 0x10000 ≤ n

/-- The tokens of a text. -/
def Tokens.ofText (s : String) : Tokens :=
  let cs := s.toList
  match cs.find? fun c => !isAcceptable c with
  | some c => ⟨[], some (.unacceptable c)⟩
  | none => fetchAll (cs.length + 2) { cursor := .ofText cs }

end Playbook.Yaml
