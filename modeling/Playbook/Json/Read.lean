import Playbook.Json.Types
import Playbook.Decimal.Numeral
import Playbook.Text.Quoted

/-!
Reading the text of a document. Where the text is not one, the position of the first character
that does not fit is reported.
-/

namespace Playbook.Json.Reader

/-- What is left of a text, and how many characters have been read. -/
structure Input where
  position : Nat
  rest : List Char

/-- A step of reading gives a part and what is left, or the position of the problem. -/
abbrev Step (α : Type) := Except Nat (α × Input)

namespace Input

def drop (i : Input) (n : Nat) : Input := ⟨i.position + n, i.rest.drop n⟩

def isBlank (c : Char) : Bool := c == ' ' || c == '\t' || c == '\n' || c == '\r'

def skipBlanks (i : Input) : Input := i.drop (i.rest.takeWhile isBlank).length

end Input

def isHex (c : Char) : Bool :=
  c.isDigit || ('a' ≤ c && c ≤ 'f') || ('A' ≤ c && c ≤ 'F')

def hexNumber (cs : List Char) : Nat :=
  cs.foldl (fun n c =>
    16 * n + (if c.isDigit then c.toNat - '0'.toNat else (c.toLower.toNat - 'a'.toNat) + 10)) 0

/-- Four hexadecimal digits that are not the last characters of the text. -/
def unit? (cs : List Char) : Option Nat :=
  let digits := cs.take 4
  if digits.length = 4 ∧ digits.all isHex ∧ 4 < cs.length then some (hexNumber digits) else none

/-- What a backslash and one character stand for. -/
def escape? : Char → Option Char
  | '"' => some '"'
  | '\\' => some '\\'
  | '/' => some '/'
  | 'b' => some '\x08'
  | 'f' => some '\x0c'
  | 'n' => some '\n'
  | 'r' => some '\r'
  | 't' => some '\t'
  | _ => none

/-- The character of one unit, or of a pair of units behind it, and how many characters of text
it takes behind the `u`. -/
def unitChar (first : Nat) (rest : List Char) : Char × Nat :=
  if 0xd800 ≤ first ∧ first < 0xdc00 then
    match rest with
    | '\\' :: 'u' :: more =>
      match unit? more with
      | some second =>
        if 0xdc00 ≤ second ∧ second < 0xe000 then
          (Char.ofNat (0x10000 + (first - 0xd800) * 0x400 + (second - 0xdc00)), 10)
        else (Text.charOfCode first, 4)
      | none => (Text.charOfCode first, 4)
    | _ => (Text.charOfCode first, 4)
  else (Text.charOfCode first, 4)

/-- The characters of a text up to its closing quote; `start` is where it was opened. -/
def characters (start : Nat) : Nat → Input → Step (List Char)
  | 0, _ => .error start
  | fuel + 1, i =>
    match i.rest with
    | [] => .error start
    | '"' :: _ => .ok ([], i.drop 1)
    | '\\' :: [] => .error start
    | '\\' :: 'u' :: rest =>
      match unit? rest with
      | none => .error (i.position + 1)
      | some first =>
        let (c, taken) := unitChar first (rest.drop 4)
        match characters start fuel (i.drop (2 + taken)) with
        | .error p => .error p
        | .ok (cs, i) => .ok (c :: cs, i)
    | '\\' :: e :: _ =>
      match escape? e with
      | none => .error i.position
      | some c =>
        match characters start fuel (i.drop 2) with
        | .error p => .error p
        | .ok (cs, i) => .ok (c :: cs, i)
    | c :: _ =>
      if c.toNat < 0x20 then .error i.position
      else match characters start fuel (i.drop 1) with
        | .error p => .error p
        | .ok (cs, i) => .ok (c :: cs, i)

/-- A text whose opening quote the input stands at. -/
def quoted (i : Input) : Step String :=
  match characters i.position (i.rest.length + 1) (i.drop 1) with
  | .error p => .error p
  | .ok (cs, i) => .ok (String.ofList cs, i)

/-- A run of digits, one at least. -/
def digits? (cs : List Char) : Option (List Char) :=
  let run := cs.takeWhile Char.isDigit
  if run.isEmpty then none else some run

/-- The longest number that a text starts with: its whole part, and what follows a point and what
stands in the exponent, as far as they are there. -/
def number? (cs : List Char) : Option (List Char × List Char × List Char) :=
  let sign := cs.takeWhile (· == '-') |>.take 1
  let body := cs.drop sign.length
  let whole := match body with
    | '0' :: _ => some ['0']
    | _ => digits? body
  match whole with
  | none => none
  | some whole =>
    let rest := body.drop whole.length
    let fraction := match rest with
      | '.' :: more => ((digits? more).map fun ds => '.' :: ds).getD []
      | _ => []
    let rest := rest.drop fraction.length
    let exponent := match rest with
      | e :: more =>
        if e == 'e' || e == 'E' then
          let mark := (more.take 1).filter fun c => c == '-' || c == '+'
          ((digits? (more.drop mark.length)).map fun ds => e :: mark ++ ds).getD []
        else []
      | [] => []
    some (sign ++ whole, fraction, exponent)

def number (i : Input) : Step Json :=
  match number? i.rest with
  | none => .error i.position
  | some (whole, fraction, exponent) =>
    let i := i.drop (whole.length + fraction.length + exponent.length)
    if fraction.isEmpty && exponent.isEmpty then
      let (negative, digits) := Decimal.takeSign whole
      let n : Int := Decimal.naturalOf digits
      .ok (.int (if negative then -n else n), i)
    else .ok (.float ((Decimal.read? (whole ++ fraction ++ exponent)).getD 0.0), i)

/-- The words that stand for values. -/
def words : List (List Char × Json) :=
  [("null".toList, .null), ("true".toList, .bool true), ("false".toList, .bool false),
    ("NaN".toList, .float (0.0 / 0.0)), ("Infinity".toList, .float (1.0 / 0.0)),
    ("-Infinity".toList, .float (-1.0 / 0.0))]

def word? (i : Input) : Option (Json × Input) :=
  (words.find? fun w => w.1.isPrefixOf i.rest).map fun w => (w.2, i.drop w.1.length)

mutual

/-- A value that the input stands at. -/
def value : Nat → Input → Step Json
  | 0, i => .error i.position
  | fuel + 1, i =>
    match i.rest with
    | '"' :: _ =>
      match quoted i with
      | .error p => .error p
      | .ok (s, i) => .ok (.text s, i)
    | '\x7b' :: _ =>
      let i := (i.drop 1).skipBlanks
      match i.rest with
      | '\x7d' :: _ => .ok (.object [], i.drop 1)
      | _ =>
        match fields fuel i with
        | .error p => .error p
        | .ok (fs, i) => .ok (.object (fs.foldl (fun out f => putField out f.1 f.2) []), i)
    | '[' :: _ =>
      let i := (i.drop 1).skipBlanks
      match i.rest with
      | ']' :: _ => .ok (.list [], i.drop 1)
      | _ =>
        match items fuel i with
        | .error p => .error p
        | .ok (js, i) => .ok (.list js, i)
    | _ =>
      match word? i with
      | some found => .ok found
      | none => number i

/-- The fields of an object up to its closing brace. -/
def fields : Nat → Input → Step (List (String × Json))
  | 0, i => .error i.position
  | fuel + 1, i =>
    match i.rest with
    | '"' :: _ =>
      match quoted i with
      | .error p => .error p
      | .ok (name, i) =>
        let i := i.skipBlanks
        match i.rest with
        | ':' :: _ =>
          match value fuel (i.drop 1).skipBlanks with
          | .error p => .error p
          | .ok (j, i) =>
            let i := i.skipBlanks
            match i.rest with
            | '\x7d' :: _ => .ok ([(name, j)], i.drop 1)
            | ',' :: _ =>
              match fields fuel (i.drop 1).skipBlanks with
              | .error p => .error p
              | .ok (more, i) => .ok ((name, j) :: more, i)
            | _ => .error i.position
        | _ => .error i.position
    | _ => .error i.position

/-- The items of a list up to its closing bracket. -/
def items : Nat → Input → Step (List Json)
  | 0, i => .error i.position
  | fuel + 1, i =>
    match value fuel i with
    | .error p => .error p
    | .ok (j, i) =>
      let i := i.skipBlanks
      match i.rest with
      | ']' :: _ => .ok ([j], i.drop 1)
      | ',' :: _ =>
        match items fuel (i.drop 1).skipBlanks with
        | .error p => .error p
        | .ok (more, i) => .ok (j :: more, i)
      | _ => .error i.position

end

end Playbook.Json.Reader

namespace Playbook.Json

/-- A text without a byte order mark in front. -/
def withoutMark : List Char → List Char
  | [] => []
  | c :: rest => if c.toNat = 0xfeff then rest else c :: rest

/-- The document that a text writes, or the position of what does not fit. -/
def read (s : String) : Except Nat Json :=
  let cs := withoutMark s.toList
  let start : Reader.Input := ⟨0, cs⟩
  match Reader.value (2 * cs.length + 2) start.skipBlanks with
  | .error p => .error p
  | .ok (j, i) =>
    let i := i.skipBlanks
    if i.rest.isEmpty then .ok j else .error i.position

end Playbook.Json
