import Playbook.Value

/-!
Mutable objects. A store maps handles to cells; a cell is an opaque object with attributes, one
whose attributes cannot be set, or a mapping. What can be called on an object is kept apart from
its fields, so that a mapping's methods are never among its keys.
-/

namespace Playbook

/-- What kind of object a cell holds. -/
inductive Shape where
  /-- Fields are attributes. -/
  | object
  /-- Fields are attributes that cannot be set. -/
  | sealed
  /-- Fields are keys. -/
  | mapping
  /-- Fields are keys that cannot be set. -/
  | frozen
  deriving Repr, DecidableEq

/-- The content of an object; `μ` is the type of its methods. -/
structure Cell (μ : Type) where
  shape : Shape
  fields : Entries
  methods : List (String × μ)

/-- Whether fields are keys rather than attributes. -/
def Shape.isMapping : Shape → Bool
  | .mapping | .frozen => true
  | .object | .sealed => false

/-- Cells by handle, in order of creation, and the next serial number for an anonymous one. -/
structure Store (μ : Type) where
  cells : List (Handle × Cell μ) := []
  next : Nat := 0

/-- How code that does not change a store sees its mappings. -/
abbrev Lookup := Handle → Option Entries

/-- The view of a store without objects. -/
def Lookup.none : Lookup := fun _ => Option.none

namespace Store

variable {μ : Type}

def empty : Store μ := ⟨[], 0⟩

instance : Inhabited (Store μ) := ⟨empty⟩

def get? (s : Store μ) (h : Handle) : Option (Cell μ) := s.cells.lookup h

/-- Puts a cell under a handle, in place of the one that was there. -/
def putCell (h : Handle) (c : Cell μ) : List (Handle × Cell μ) → List (Handle × Cell μ)
  | [] => [(h, c)]
  | (k, old) :: rest => if k = h then (k, c) :: rest else (k, old) :: putCell h c rest

def put (s : Store μ) (h : Handle) (c : Cell μ) : Store μ :=
  { s with cells := putCell h c s.cells }

/-- Creates an object without a label. -/
def allocate (s : Store μ) (c : Cell μ) : Handle × Store μ :=
  (.anonymous s.next, { cells := putCell (.anonymous s.next) c s.cells, next := s.next + 1 })

/-- The entries of the mappings in the store. -/
def lookup (s : Store μ) : Lookup := fun h =>
  match s.get? h with
  | some c => if c.shape.isMapping then some c.fields else none
  | none => none

end Store

/-- The entries of a value that is a mapping of any kind. -/
def Value.entries? (lookup : Lookup) : Value → Option Entries
  | .map entries | .frozenMap entries => some entries
  | .handle h => lookup h
  | _ => none

/-- The field of a record, by the name it is read under. -/
def Value.slot? (slots : List (Slot × Value)) (name : String) : Option Value :=
  (slots.find? fun e => e.1.name == name).map Prod.snd

namespace Store

variable {μ : Type}

/-- What is found under a name on an object. -/
inductive Member (μ : Type) where
  | method (m : μ)
  | plain (v : Value)

/-- The attribute of a value: of an object a field or a method, of a mapping only a method. -/
def attribute? (s : Store μ) (v : Value) (name : String) : Option (Member μ) :=
  match v with
  | .handle h =>
    match s.get? h with
    | none => none
    | some c =>
      let own := if c.shape.isMapping then none else c.fields.getText? name
      match own with
      | some v => some (.plain v)
      | none => (c.methods.lookup name).map .method
  | .record _ slots => (Value.slot? slots name).map .plain
  | _ => none

/-- The value of a member; a method is a callable. -/
def Member.value : Member μ → Value
  | .method _ => .callable
  | .plain v => v

/-- Reads a key of a mapping or an attribute of an object; null when there is none. -/
def field (s : Store μ) (v : Value) (name : String) : Value :=
  match v.entries? s.lookup with
  | some entries => (entries.getText? name).getD .null
  | none => ((s.attribute? v name).map Member.value).getD .null

/-- Sets a key of a mapping or an attribute of an object, if the object allows it. -/
def setField? (s : Store μ) (v : Value) (name : String) (value : Value) : Option (Store μ) :=
  match v with
  | .handle h =>
    match s.get? h with
    | none => none
    | some c =>
      match c.shape with
      | .object | .mapping => some (s.put h { c with fields := c.fields.insert (.text name) value })
      | .sealed | .frozen => none
  | _ => none

/-- Whether a value counts as true: an empty mapping does not, any other object does. -/
def isTruthy (s : Store μ) (v : Value) : Bool :=
  match v with
  | .handle h =>
    match s.lookup h with
    | some entries => !entries.isEmpty
    | none => true
  | v => v.isTruthy

end Store

mutual

/-- A value with something else in the place of each handle. -/
def Value.mapHandles (f : Handle → Value) : Value → Value
  | .handle h => f h
  | .list items => .list (mapHandlesAll f items)
  | .tuple items => .tuple (mapHandlesAll f items)
  | .set items => .set (mapHandlesAll f items)
  | .map entries => .map (mapHandlesEntries f entries)
  | .frozenMap entries => .frozenMap (mapHandlesEntries f entries)
  | .record type slots => .record type (mapHandlesSlots f slots)
  | v => v

def mapHandlesAll (f : Handle → Value) : List Value → List Value
  | [] => []
  | v :: rest => v.mapHandles f :: mapHandlesAll f rest

def mapHandlesEntries (f : Handle → Value) : List (Value × Value) → Entries
  | [] => []
  | (k, v) :: rest => (k.mapHandles f, v.mapHandles f) :: mapHandlesEntries f rest

def mapHandlesSlots (f : Handle → Value) : List (Slot × Value) → List (Slot × Value)
  | [] => []
  | (s, v) :: rest => (s, v.mapHandles f) :: mapHandlesSlots f rest

end

namespace Store

variable {μ : Type}

/-- The content of a mapping object as a value, down to a depth. Objects that are no mappings stay
handles, and so do labelled mappings unless they are asked for. -/
def content (s : Store μ) (labelled : Bool) : Nat → Handle → Value
  | 0, h => .handle h
  | depth + 1, h =>
    let wanted := match h with
      | .named _ => labelled
      | .anonymous _ => true
    match s.get? h with
    | none => .handle h
    | some c =>
      if !wanted then .handle h
      else match c.shape with
        | .mapping => .map (mapHandlesEntries (s.content labelled depth) c.fields)
        | .frozen => .frozenMap (mapHandlesEntries (s.content labelled depth) c.fields)
        | .object | .sealed => .handle h

/-- A value as it stands now, with the mapping objects in it written out. -/
def snapshot (s : Store μ) (labelled : Bool) (v : Value) : Value :=
  v.mapHandles (s.content labelled (s.cells.length + 1))

end Store

mutual

/-- Whether a value holds a handle that meets a condition, at any depth. What a mapping that cannot
be changed holds does not count, and neither do keys. -/
def Value.holdsHandle (p : Handle → Bool) : Value → Bool
  | .handle h => p h
  | .list items | .tuple items | .set items => rowHoldsHandle p items
  | .map entries => entriesHoldHandle p entries
  | .record _ slots => slotsHoldHandle p slots
  | _ => false

def rowHoldsHandle (p : Handle → Bool) : List Value → Bool
  | [] => false
  | v :: rest => v.holdsHandle p || rowHoldsHandle p rest

def entriesHoldHandle (p : Handle → Bool) : List (Value × Value) → Bool
  | [] => false
  | (_, v) :: rest => v.holdsHandle p || entriesHoldHandle p rest

def slotsHoldHandle (p : Handle → Bool) : List (Slot × Value) → Bool
  | [] => false
  | (_, v) :: rest => v.holdsHandle p || slotsHoldHandle p rest

end

/-- Whether a mapping object in a value holds itself. Then one is left over however far the value is
written out, and otherwise none is left at the depth at which each was met once. -/
def Store.isCircular {μ : Type} (s : Store μ) (v : Value) : Bool :=
  (s.snapshot true v).holdsHandle fun h => (s.lookup h).isSome

end Playbook
