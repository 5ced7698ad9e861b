import Playbook.Yaml.Token

/-!
The tree of a document: scalars, sequences and mappings, each with its tag. Aliases stand for the
nodes they name, and inside of those for coming round to them. A text holds one document at most.
-/

namespace Playbook.Yaml

inductive Node where
  | scalar (tag text : String)
  | sequence (tag : String) (items : List Node)
  | mapping (tag : String) (pairs : List (Node × Node))
  /-- A collection again, inside of itself: its tag and its kind. -/
  | loop (tag kind : String)

/-- What all tags of standard types start with. -/
def standardTag (name : String) : String := "tag:yaml.org,2002:" ++ name

def Node.tag : Node → String
  | .scalar tag _ | .sequence tag _ | .mapping tag _ | .loop tag _ => tag

/-- How messages name the kind of a node. -/
def Node.kind : Node → String
  | .scalar _ _ => "scalar"
  | .sequence _ _ => "sequence"
  | .mapping _ _ => "mapping"
  | .loop _ kind => kind

mutual

/-- How many levels a tree has. -/
def Node.height : Node → Nat
  | .scalar _ _ | .loop _ _ => 1
  | .sequence _ items => heightOfAll items + 1
  | .mapping _ pairs => heightOfPairs pairs + 1

def heightOfAll : List Node → Nat
  | [] => 0
  | n :: rest => max n.height (heightOfAll rest)

def heightOfPairs : List (Node × Node) → Nat
  | [] => 0
  | (k, v) :: rest => max (max k.height v.height) (heightOfPairs rest)

end

/-! ### The type of a plain scalar -/

namespace Implicit

/-- Digits and underscores. -/
def isGrouped (c : Char) : Bool := c.isDigit || c == '_'

/-- Drops one sign. -/
def unsigned : List Char → List Char
  | '-' :: rest | '+' :: rest => rest
  | cs => cs

/-- Parts behind colons, each one or two digits below 60. -/
def areSixtieths : List (List Char) → Bool
  | [] => true
  | [d] :: rest => d.isDigit && areSixtieths rest
  | [d, e] :: rest => '0' ≤ d && d ≤ '5' && e.isDigit && areSixtieths rest
  | _ => false

/-- Splits at colons. -/
def colonParts : List Char → List (List Char)
  | [] => [[]]
  | c :: rest =>
    match c, colonParts rest with
    | ':', parts => [] :: parts
    | c, [] => [[c]]
    | c, first :: others => (c :: first) :: others

def isBool (s : String) : Bool :=
  ["yes", "Yes", "YES", "no", "No", "NO", "true", "True", "TRUE", "false", "False", "FALSE",
    "on", "On", "ON", "off", "Off", "OFF"].contains s

def isNull (s : String) : Bool := ["", "~", "null", "Null", "NULL"].contains s

/-- Digits led by one that is not zero, with underscores between. -/
def isDecimal : List Char → Bool
  | d :: rest => d.isDigit && d != '0' && rest.all isGrouped
  | [] => false

def isInt (cs : List Char) : Bool :=
  match unsigned cs with
  | ['0'] => true
  | '0' :: 'b' :: rest => !rest.isEmpty && rest.all fun c => c == '0' || c == '1' || c == '_'
  | '0' :: 'x' :: rest => !rest.isEmpty && rest.all fun c => isHex c || c == '_'
  | '0' :: rest => rest.all fun c => ('0' ≤ c && c ≤ '7') || c == '_'
  | body =>
    match colonParts body with
    | [whole] => isDecimal whole
    | whole :: parts => isDecimal whole && areSixtieths parts
    | [] => false

/-- Nothing, or a power of ten with a sign. -/
def isExponent : List Char → Bool
  | [] => true
  | e :: sign :: digits =>
    (e == 'e' || e == 'E') && (sign == '-' || sign == '+') && !digits.isEmpty &&
      digits.all Char.isDigit
  | _ => false

/-- A number with a point; a point in front takes no sign. -/
def isPointed (cs : List Char) : Bool :=
  let body := unsigned cs
  match body with
  | '.' :: d :: rest =>
    body.length == cs.length && d.isDigit && isExponent (rest.dropWhile isGrouped)
  | d :: _ =>
    d.isDigit && match body.dropWhile isGrouped with
      | '.' :: rest => isExponent (rest.dropWhile isGrouped)
      | _ => false
  | [] => false

/-- Sixtieths with a point in the last part. -/
def isSexagesimal (cs : List Char) : Bool :=
  match colonParts (unsigned cs) with
  | (d :: whole) :: second :: parts =>
    let tail := second :: parts
    let last := tail.getLast?.getD []
    let front := last.takeWhile (· != '.')
    d.isDigit && whole.all isGrouped && areSixtieths (tail.dropLast ++ [front]) &&
      match last.dropWhile (· != '.') with
      | '.' :: behind => behind.all isGrouped
      | _ => false
  | _ => false

def isFloat (cs : List Char) : Bool :=
  isPointed cs || isSexagesimal cs ||
    [".inf", ".Inf", ".INF"].contains (String.ofList (unsigned cs)) ||
    [".nan", ".NaN", ".NAN"].contains (String.ofList cs)

end Implicit

/-- The parts of a date, and of the time of day behind it. -/
structure TimeParts where
  year : List Char
  month : List Char
  day : List Char
  /-- Hour, minute, second, the digits of a fraction, and the zone. -/
  time : Option (List Char × List Char × List Char × List Char × List Char)

namespace TimeParts

/-- Between one and two digits. -/
def oneOrTwo (cs : List Char) : List Char × List Char :=
  let run := (cs.take 2).takeWhile Char.isDigit
  (run, cs.drop run.length)

/-- Exactly some number of digits. -/
def exactly? (n : Nat) (cs : List Char) : Option (List Char × List Char) :=
  let run := cs.take n
  if run.length = n ∧ run.all Char.isDigit then some (run, cs.drop n) else none

def literally? (c : Char) : List Char → Option (List Char)
  | d :: rest => if d = c then some rest else none
  | [] => none

/-- Hours and minutes behind the sign of a zone. -/
def isOffset (cs : List Char) : Bool :=
  let (hour, rest) := oneOrTwo cs
  !hour.isEmpty && match rest with
    | [] => true
    | ':' :: minute => minute.length == 2 && minute.all Char.isDigit
    | _ => false

def isZone : List Char → Bool
  | [] => true
  | ['Z'] => true
  | '+' :: rest | '-' :: rest => isOffset rest
  | _ => false

def isBlank (c : Char) : Bool := c == ' ' || c == '\t'

/-- What stands between a date and a time: a letter or blanks. -/
def gap? (cs : List Char) : Option (List Char) :=
  match cs with
  | 'T' :: rest | 't' :: rest => some rest
  | c :: _ => if isBlank c then some (cs.dropWhile isBlank) else none
  | [] => none

/-- A time of day with a fraction and a zone. -/
def time? (cs : List Char) :
    Option (List Char × List Char × List Char × List Char × List Char) := do
  let (hour, rest) := oneOrTwo cs
  if hour.isEmpty then none
  let (minute, rest) ← exactly? 2 (← literally? ':' rest)
  let (second, rest) ← exactly? 2 (← literally? ':' rest)
  let (fraction, rest) := match rest with
    | '.' :: more => (more.takeWhile Char.isDigit, more.dropWhile Char.isDigit)
    | _ => ([], rest)
  let zone := rest.dropWhile isBlank
  if isZone zone && (zone ≠ [] || rest = []) then some (hour, minute, second, fraction, zone)
  else none

/-- The parts of a text that is a date, alone or with a time of day. -/
def ofChars? (cs : List Char) : Option TimeParts := do
  let (year, rest) ← exactly? 4 cs
  let (month, rest) := oneOrTwo (← literally? '-' rest)
  if month.isEmpty then none
  let (day, rest) := oneOrTwo (← literally? '-' rest)
  if day.isEmpty then none
  if rest.isEmpty then some ⟨year, month, day, none⟩
  else some ⟨year, month, day, some (← time? (← gap? rest))⟩

/-- Whether a plain scalar of this form is a date by itself: a date alone needs two digits each
for month and day. -/
def isImplicit (cs : List Char) : Bool :=
  match ofChars? cs with
  | none => false
  | some p => p.time.isSome || (p.month.length == 2 && p.day.length == 2)

end TimeParts

/-- A text without one line break at its end. -/
def withoutFinalBreak (cs : List Char) : List Char :=
  if cs.getLast? = some '\n' then cs.dropLast else cs

/-- The tag of a scalar whose type its text decides. -/
def implicitTag (text : String) : String :=
  let cs := withoutFinalBreak text.toList
  let s := String.ofList cs
  let name :=
    if Implicit.isBool s then "bool"
    else if Implicit.isFloat cs then "float"
    else if Implicit.isInt cs then "int"
    else if s = "<<" then "merge"
    else if text = "" ∨ (Implicit.isNull s ∧ s ≠ "") then "null"
    else if TimeParts.isImplicit cs then "timestamp"
    else if s = "=" then "value"
    else if s = "!" ∨ s = "&" ∨ s = "*" then "yaml"
    else "str"
  standardTag name

/-! ### From tokens to the tree -/

/-- The state between two tokens of a document. -/
structure Progress where
  tokens : List Token
  /-- What ended the tokens, unless it was the end of the text. -/
  problem : Option Problem
  handles : List (String × String)
  /-- The nodes that were named; one that is still open is a loop. -/
  anchors : List (String × Node)

abbrev Parser := StateT Progress (Except Problem)

namespace Parser

def fail {α : Type} (p : Problem) : Parser α := throw p

/-- The next token, which stays where it is. -/
def peek : Parser Token := do
  let s ← get
  match s.tokens with
  | t :: _ => return t
  | [] => fail (s.problem.getD .tooDeep)

/-- Past the next token. -/
def skip : Parser Unit := modify fun s => { s with tokens := s.tokens.drop 1 }

def next : Parser Token := do
  let t ← peek
  skip
  return t

/-- Past the next token if it is the given one. -/
def accept (t : Token) : Parser Bool := do
  if (← peek) = t then
    skip
    return true
  else return false

/-- Anchor and tag in front of a node, in either order. -/
def properties : Parser (Option String × Option TagText) := do
  match ← peek with
  | .anchor name =>
    skip
    match ← peek with
    | .tag text => skip; return (some name, some text)
    | _ => return (some name, none)
  | .tag text =>
    skip
    match ← peek with
    | .anchor name => skip; return (some name, some text)
    | _ => return (none, some text)
  | _ => return (none, none)

/-- The tag that a written tag stands for. -/
def expandTag (text : Option TagText) : Parser (Option String) := do
  match text with
  | none => return none
  | some ⟨none, suffix⟩ => return some suffix
  | some ⟨some handle, suffix⟩ =>
    match (← get).handles.lookup handle with
    | some start => return some (start ++ suffix)
    | none => fail (.parsing "a node")

/-- Opens a named node of a kind; no name is used twice. -/
def openAnchor (anchor : Option String) (tag kind : String) : Parser Unit := do
  match anchor with
  | none => return ()
  | some name =>
    if ((← get).anchors.lookup name).isSome then fail (.duplicateAnchor name)
    modify fun s => { s with anchors := (name, .loop tag kind) :: s.anchors }

/-- A finished node takes its name. -/
def closeAnchor (anchor : Option String) (n : Node) : Parser Node := do
  match anchor with
  | none => return n
  | some name =>
    modify fun s => { s with anchors := (name, n) :: s.anchors }
    return n

def emptyScalar : Node := .scalar (standardTag "null") ""

/-- A collection without a tag has the tag of its kind. -/
def tagOr (tag : Option String) (name : String) : String :=
  match tag with
  | none => standardTag name
  | some "!" => standardTag name
  | some t => t

/-- The tag of a scalar: its own, or by its text when it is plain or marked to be. -/
def scalarTag (tag : Option String) (text : String) (plain : Bool) : String :=
  match tag with
  | none => if plain then implicitTag text else standardTag "str"
  | some "!" => implicitTag text
  | some t => t

/-- Whether a block sequence may stand at the indentation of the mapping around it. -/
inductive Place where
  | block
  | blockOrIndentless
  | flow
  deriving DecidableEq

mutual

/-- A node of the kind that its place allows. -/
def node : Nat → Place → Parser Node
  | 0, _ => fail .tooDeep
  | fuel + 1, place => do
    match ← peek with
    | .alias name =>
      skip
      match (← get).anchors.lookup name with
      | some n => return n
      | none => fail (.undefinedAlias name)
    | _ =>
      let (anchor, written) ← properties
      let tag ← expandTag written
      match place, ← peek with
      | .blockOrIndentless, .blockEntry =>
        openAnchor anchor (tagOr tag "seq") "sequence"
        let items ← indentlessItems fuel
        closeAnchor anchor (.sequence (tagOr tag "seq") items)
      | _, .scalar text plain =>
        skip
        openAnchor anchor (scalarTag tag text plain) "scalar"
        closeAnchor anchor (.scalar (scalarTag tag text plain) text)
      | _, .flowSequenceStart =>
        openAnchor anchor (tagOr tag "seq") "sequence"
        skip
        let items ← flowItems fuel true
        closeAnchor anchor (.sequence (tagOr tag "seq") items)
      | _, .flowMappingStart =>
        openAnchor anchor (tagOr tag "map") "mapping"
        skip
        let pairs ← flowPairs fuel true
        closeAnchor anchor (.mapping (tagOr tag "map") pairs)
      | place, token =>
        match place != .flow, token with
        | true, .blockSequenceStart =>
          openAnchor anchor (tagOr tag "seq") "sequence"
          skip
          let items ← blockItems fuel
          closeAnchor anchor (.sequence (tagOr tag "seq") items)
        | true, .blockMappingStart =>
          openAnchor anchor (tagOr tag "map") "mapping"
          skip
          let pairs ← blockPairs fuel
          closeAnchor anchor (.mapping (tagOr tag "map") pairs)
        | _, _ =>
          if anchor.isSome || tag.isSome then
            openAnchor anchor (scalarTag tag "" true) "scalar"
            closeAnchor anchor (.scalar (scalarTag tag "" true) "")
          else
            fail (.parsing (if place = .flow then "a flow node" else "a block node"))

/-- The entries of a block sequence, up to the end of the block. -/
def blockItems : Nat → Parser (List Node)
  | 0 => fail .tooDeep
  | fuel + 1 => do
    if ← accept .blockEntry then
      let item ← match ← peek with
        | .blockEntry | .blockEnd => pure emptyScalar
        | _ => node fuel .block
      return item :: (← blockItems fuel)
    else if ← accept .blockEnd then return []
    else fail (.parsing "a block collection")

/-- The entries of a sequence that stands at the indentation of its mapping. -/
def indentlessItems : Nat → Parser (List Node)
  | 0 => fail .tooDeep
  | fuel + 1 => do
    if ← accept .blockEntry then
      let item ← match ← peek with
        | .blockEntry | .key | .value | .blockEnd => pure emptyScalar
        | _ => node fuel .block
      return item :: (← indentlessItems fuel)
    else return []

/-- The pairs of a block mapping, up to the end of the block. -/
def blockPairs : Nat → Parser (List (Node × Node))
  | 0 => fail .tooDeep
  | fuel + 1 => do
    if ← accept .key then
      let key ← blockPart fuel
      let value ← if ← accept .value then blockPart fuel else pure emptyScalar
      return (key, value) :: (← blockPairs fuel)
    else
      match ← peek with
      | .blockEnd => skip; return []
      | _ => fail (.parsing "a block mapping")

/-- A key or a value of a block mapping, which may be left out. -/
def blockPart : Nat → Parser Node
  | 0 => fail .tooDeep
  | fuel + 1 => do
    match ← peek with
    | .key | .value | .blockEnd => return emptyScalar
    | _ => node fuel .blockOrIndentless

/-- The items of a sequence in brackets. A single pair may stand without brackets of its own. -/
def flowItems : Nat → Bool → Parser (List Node)
  | 0, _ => fail .tooDeep
  | fuel + 1, first => do
    if ← accept .flowSequenceEnd then return []
    unless first do
      unless ← accept .flowEntry do
        fail (.parsing "a flow sequence")
    if ← accept .key then
      let key ← match ← peek with
        | .value | .flowEntry | .flowSequenceEnd => pure emptyScalar
        | _ => node fuel .flow
      let value ← if ← accept .value then
          match ← peek with
          | .flowEntry | .flowSequenceEnd => pure emptyScalar
          | _ => node fuel .flow
        else pure emptyScalar
      return .mapping (standardTag "map") [(key, value)] :: (← flowItems fuel false)
    else if ← accept .flowSequenceEnd then return []
    else
      let item ← node fuel .flow
      return item :: (← flowItems fuel false)

/-- The pairs of a mapping in braces. A key may stand without a value. -/
def flowPairs : Nat → Bool → Parser (List (Node × Node))
  | 0, _ => fail .tooDeep
  | fuel + 1, first => do
    if ← accept .flowMappingEnd then return []
    unless first do
      unless ← accept .flowEntry do
        fail (.parsing "a flow mapping")
    if ← accept .key then
      let key ← match ← peek with
        | .value | .flowEntry | .flowMappingEnd => pure emptyScalar
        | _ => node fuel .flow
      let value ← if ← accept .value then
          match ← peek with
          | .flowEntry | .flowMappingEnd => pure emptyScalar
          | _ => node fuel .flow
        else pure emptyScalar
      return (key, value) :: (← flowPairs fuel false)
    else if ← accept .flowMappingEnd then return []
    else
      let key ← node fuel .flow
      let _ ← peek
      return (key, emptyScalar) :: (← flowPairs fuel false)

end

/-! ### Documents -/

def standardHandles : List (String × String) := [("!", "!"), ("!!", standardTag "")]

/-- Directives in front of a document: at most one version, and tag handles. -/
def directives : Nat → Bool → Parser Unit
  | 0, _ => return ()
  | fuel + 1, versioned => do
    match ← peek with
    | .versionDirective major =>
      skip
      if versioned then fail .duplicateDirective
      if major ≠ 1 then fail .incompatibleVersion
      directives fuel true
    | .tagDirective handle start =>
      skip
      if ((← get).handles.lookup handle).isSome then fail (.duplicateTagHandle handle)
      modify fun s => { s with handles := s.handles ++ [(handle, start)] }
      directives fuel versioned
    | .otherDirective =>
      skip
      directives fuel versioned
    | _ => return ()

/-- Past any marks that end documents. -/
def skipDocumentEnds : Nat → Parser Unit
  | 0 => return ()
  | fuel + 1 => do
    if ← accept .documentEnd then skipDocumentEnds fuel

/-- Past the directives and the mark that start a document; `false` at the end of the text. -/
def openDocument (fuel : Nat) : Parser Bool := do
  skipDocumentEnds fuel
  match ← peek with
  | .streamEnd => return false
  | _ =>
    modify fun s => { s with handles := [] }
    directives fuel false
    modify fun s => { s with handles := s.handles ++ standardHandles }
    if ← accept .documentStart then return true
    else fail (.expectedDocument (← peek).label)

/-- The node of a document that started with a mark; it may be left out. -/
def documentContent (fuel : Nat) : Parser Node := do
  match ← peek with
  | .versionDirective _ | .tagDirective _ _ | .otherDirective | .documentStart | .documentEnd
  | .streamEnd => return emptyScalar
  | _ => node fuel .block

/-- The only document of a text, if there is one. -/
def singleDocument (fuel : Nat) : Parser (Option Node) := do
  let root ← match ← peek with
    | .versionDirective _ | .tagDirective _ _ | .otherDirective | .documentStart | .streamEnd => do
      if ← openDocument fuel then
        let n ← documentContent fuel
        pure (some n)
      else pure none
    | _ => do
      modify fun s => { s with handles := standardHandles }
      let n ← node fuel .block
      pure (some n)
  if root.isNone then return none
  let _ ← accept .documentEnd
  if ← openDocument fuel then fail .severalDocuments
  return root

end Parser

/-- The tree of the document that a text holds, if it holds one. -/
def Node.ofText? (s : String) : Except Problem (Option Node) :=
  let t := Tokens.ofText s
  let fuel := 4 * t.tokens.length + 16
  match (Parser.singleDocument fuel).run ⟨t.tokens, t.problem, [], []⟩ with
  | .ok (n, _) => .ok n
  | .error p => .error p

end Playbook.Yaml
