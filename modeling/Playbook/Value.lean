import Playbook.Calendar
import Playbook.Decimal.Binary

/-!
The dynamic values that documents, contexts and command payloads are made of. Mappings keep the
order of insertion and hold each key once; mutable objects are not values themselves but are named
by handles, and their content lives in a store.
-/

namespace Playbook

/-- Names a mutable object: one with a label of its own, or one that only its place of creation
tells apart. -/
inductive Handle where
  | named (label : String)
  | anonymous (serial : Nat)
  deriving Repr, DecidableEq

/-- How a field of a record came to hold its value. -/
inductive Origin where
  /-- Given by the input. -/
  | given
  /-- Left out, so the default stands. -/
  | defaulted
  /-- Given under a key that the record does not declare. -/
  | extra
  deriving Repr, DecidableEq

/-- A field of a record: the name it is read by, the key that documents use, and its origin. -/
structure Slot where
  name : String
  key : String
  origin : Origin
  deriving Repr, DecidableEq

/-- A dynamic value. -/
inductive Value where
  | null
  | bool (b : Bool)
  | int (n : Int)
  | float (x : Float)
  | text (s : String)
  | bytes (bs : List UInt8)
  | list (items : List Value)
  | tuple (items : List Value)
  | map (entries : List (Value × Value))
  /-- A mapping that cannot be changed. -/
  | frozenMap (entries : List (Value × Value))
  | set (items : List Value)
  | date (d : Date)
  | moment (m : Moment)
  /-- Something that can be called and is otherwise opaque. -/
  | callable
  | handle (h : Handle)
  /-- An instance of a named record type, already checked. -/
  | record (type : String) (slots : List (Slot × Value))

abbrev Entries := List (Value × Value)

namespace Value

instance : Inhabited Value := ⟨.null⟩

/-- Whether a value is null. -/
def isNull : Value → Bool
  | .null => true
  | _ => false

/-- A map with text keys. -/
def ofFields (fields : List (String × Value)) : Value :=
  .map (fields.map fun (k, v) => (.text k, v))

/-- Text, or null when there is none. -/
def ofText? : Option String → Value
  | none => .null
  | some s => .text s

/-- An integer, or null when there is none. -/
def ofInt? : Option Int → Value
  | none => .null
  | some n => .int n

/-- A truth value, or null when there is none. -/
def ofBool? : Option Bool → Value
  | none => .null
  | some b => .bool b

/-- The text that a value is, if it is text. -/
def text? : Value → Option String
  | .text s => some s
  | _ => none

/-- The number a value counts as when numbers are compared: truth values are 0 and 1, and a double
counts when it is whole. -/
def asInteger? : Value → Option Int
  | .bool b => some (if b then 1 else 0)
  | .int n => some n
  | .float x => Decimal.integerOf? x
  | _ => none

mutual

/-- Equality of values. Numbers are equal when they stand for the same number, whatever their type;
a map equals a map with the same entries in any order, read-only or not; lists and tuples keep
apart. A double that is not a number equals itself. -/
def equals : Value → Value → Bool
  | .null, .null => true
  | .text a, .text b => a == b
  | .bytes a, .bytes b => a == b
  | .list a, .list b => equalsAll a b
  | .tuple a, .tuple b => equalsAll a b
  | .map a, .map b => a.length == b.length && equalsEntries a b
  | .map a, .frozenMap b => a.length == b.length && equalsEntries a b
  | .frozenMap a, .map b => a.length == b.length && equalsEntries a b
  | .frozenMap a, .frozenMap b => a.length == b.length && equalsEntries a b
  | .set a, .set b => a.length == b.length && containedIn a b
  | .date a, .date b => a == b
  | .moment a, .moment b => a == b
  | .callable, .callable => true
  | .handle a, .handle b => a == b
  | .record s a, .record t b => s == t && a.length == b.length && equalsSlots a b
  | .float x, .float y => x == y || (x.isNaN && y.isNaN)
  | .float x, b => numbersEqual (.float x) b
  | .bool x, b => numbersEqual (.bool x) b
  | .int x, b => numbersEqual (.int x) b
  | _, _ => false

/-- Lists are equal item by item. -/
def equalsAll : List Value → List Value → Bool
  | [], [] => true
  | a :: as, b :: bs => equals a b && equalsAll as bs
  | _, _ => false

/-- Each entry of the first list stands in the second. -/
def equalsEntries : List (Value × Value) → List (Value × Value) → Bool
  | [], _ => true
  | (k, v) :: rest, other =>
    other.any (fun e => equals k e.1 && equals v e.2) && equalsEntries rest other

/-- Each member of the first list stands in the second. -/
def containedIn : List Value → List Value → Bool
  | [], _ => true
  | a :: as, bs => bs.any (fun b => equals a b) && containedIn as bs

/-- Records agree when their declared fields hold equal values and so do their further keys, in
any order. -/
def equalsSlots : List (Slot × Value) → List (Slot × Value) → Bool
  | [], _ => true
  | (s, v) :: rest, other =>
    other.any (fun e => e.1.name == s.name && equals v e.2) && equalsSlots rest other

/-- Numbers of different types are equal when both are whole and the same. -/
def numbersEqual : Value → Value → Bool
  | a, b => match asInteger? a, asInteger? b with
    | some m, some n => m == n
    | _, _ => false

end

/-- Whether a value counts as true where a condition is asked for. Handles are settled by the
store they live in, so here they count as true. -/
def isTruthy : Value → Bool
  | .null => false
  | .bool b => b
  | .int n => n != 0
  | .float x => x != 0.0
  | .text s => !s.isEmpty
  | .bytes bs => !bs.isEmpty
  | .list items | .tuple items | .set items => !items.isEmpty
  | .map entries | .frozenMap entries => !entries.isEmpty
  | .date _ | .moment _ | .callable | .handle _ | .record _ _ => true

end Value

namespace Entries

/-- The value under a key. -/
def get? (entries : Entries) (key : Value) : Option Value :=
  (entries.find? fun e => key.equals e.1).map Prod.snd

/-- The value under a text key. -/
def getText? (entries : Entries) (key : String) : Option Value :=
  match entries with
  | [] => none
  | (k, v) :: rest =>
    match k with
    | .text s => if s = key then some v else getText? rest key
    | _ => getText? rest key

/-- Puts a value under a key. A key that is already there keeps its place and its spelling. -/
def insert (entries : Entries) (key value : Value) : Entries :=
  match entries with
  | [] => [(key, value)]
  | (k, v) :: rest => if key.equals k then (k, value) :: rest else (k, v) :: insert rest key value

/-- The entries of a row of pairs, a later pair overriding an earlier one with the same key. -/
def ofPairs (pairs : List (Value × Value)) : Entries :=
  pairs.foldl (fun entries p => entries.insert p.1 p.2) []

/-- The keys in order. -/
def keys (entries : Entries) : List Value := entries.map Prod.fst

end Entries

end Playbook
