import Playbook.Decimal.Layout
import Playbook.Text.Quoted
import Playbook.Value

/-!
Documents of data interchange, and their text with an indentation of two.
-/

namespace Playbook

inductive Json where
  | null
  | bool (b : Bool)
  | int (n : Int)
  | float (x : Float)
  | text (s : String)
  | list (items : List Json)
  | object (fields : List (String × Json))

namespace Json

def ofText? : Option String → Json
  | none => .null
  | some s => .text s

def ofNat (n : Nat) : Json := .int n

/-- Puts a field; a name that is there keeps its place. -/
def putField (fields : List (String × Json)) (name : String) (j : Json) : List (String × Json) :=
  match fields with
  | [] => [(name, j)]
  | (n, old) :: rest => if n = name then (n, j) :: rest else (n, old) :: putField rest name j

mutual

/-- The document as a value. -/
def toValue : Json → Value
  | .null => .null
  | .bool b => .bool b
  | .int n => .int n
  | .float x => .float x
  | .text s => .text s
  | .list items => .list (toValues items)
  | .object fields => .map (toEntries fields)

def toValues : List Json → List Value
  | [] => []
  | j :: rest => j.toValue :: toValues rest

def toEntries : List (String × Json) → Entries
  | [] => []
  | (k, j) :: rest => (.text k, j.toValue) :: toEntries rest

end

/-- Four hexadecimal digits behind `\u`. -/
def unitEscape (n : Nat) : List Char := '\\' :: 'u' :: Text.hexFixed 4 n

/-- One character of a text, in ASCII; characters beyond the first plane take two units. -/
def charText (c : Char) : List Char :=
  let n := c.toNat
  if c = '"' then ['\\', '"']
  else if c = '\\' then ['\\', '\\']
  else if c = '\n' then ['\\', 'n']
  else if c = '\r' then ['\\', 'r']
  else if c = '\t' then ['\\', 't']
  else if n = 8 then ['\\', 'b']
  else if n = 12 then ['\\', 'f']
  else if 0x20 ≤ n ∧ n ≤ 0x7e then [c]
  else if n < 0x10000 then unitEscape n
  else
    let m := n - 0x10000
    unitEscape (0xd800 + m / 0x400) ++ unitEscape (0xdc00 + m % 0x400)

def textText (s : String) : List Char := '"' :: s.toList.flatMap charText ++ ['"']

/-- A line break and the indentation of a level. -/
def newLine (level : Nat) : List Char := '\n' :: List.replicate (2 * level) ' '

mutual

/-- The text of a document that stands at a level of nesting. -/
def render (level : Nat) : Json → List Char
  | .null => ['n', 'u', 'l', 'l']
  | .bool b => if b then ['t', 'r', 'u', 'e'] else ['f', 'a', 'l', 's', 'e']
  | .int n => (toString n).toList
  | .float x => (Decimal.render x).toList
  | .text s => textText s
  | .list [] => ['[', ']']
  | .list (first :: rest) =>
    '[' :: newLine (level + 1) ++ render (level + 1) first ++ renderItems (level + 1) rest ++
      newLine level ++ [']']
  | .object [] => ['\x7b', '\x7d']
  | .object ((name, first) :: rest) =>
    '\x7b' :: newLine (level + 1) ++ textText name ++ ':' :: ' ' :: render (level + 1) first ++
      renderFields (level + 1) rest ++ newLine level ++ ['\x7d']

/-- Further items, each behind a comma on a line of its own. -/
def renderItems (level : Nat) : List Json → List Char
  | [] => []
  | j :: rest => ',' :: newLine level ++ render level j ++ renderItems level rest

def renderFields (level : Nat) : List (String × Json) → List Char
  | [] => []
  | (name, j) :: rest =>
    ',' :: newLine level ++ textText name ++ ':' :: ' ' :: render level j ++
      renderFields level rest

end

/-- The text of a document. -/
def pretty (j : Json) : String := String.ofList (j.render 0)

end Json

end Playbook
