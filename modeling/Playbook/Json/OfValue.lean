import Playbook.Failure
import Playbook.Json.Types
import Playbook.Text.Blank
import Playbook.Text.Literal

/-!
Values as documents of data interchange. Everything with a form of its own is written in that form;
whether opaque objects may show as their text is up to the caller.
-/

namespace Playbook.Json

/-- Why a value has no document. -/
inductive Fault where
  /-- Bytes that encode no text. -/
  | notUtf8
  /-- An opaque object, where none is allowed. -/
  | opaqueObject
  /-- A mapping that holds itself. -/
  | circular
  /-- A collection in the place of a key. -/
  | unfitKey
  /-- Anything else that a writer refuses. -/
  | refused (f : Failure)
  deriving Repr, DecidableEq

/-- A double; what is not finite becomes null. -/
def ofFloat (x : Float) : Json :=
  match Decimal.readFloat x with
  | .finite _ => .float x
  | _ => .null

/-- The name of a double; what is not finite goes by that of null. -/
def floatName (x : Float) : String :=
  match Decimal.readFloat x with
  | .finite _ => Decimal.render x
  | _ => "None"

/-- The text of an opaque value, if it may show. -/
def objectText (shows : Bool) (v : Value) : Except Fault String :=
  if shows then .ok v.literal else .error .opaqueObject

def bytesText (bs : List UInt8) : Except Fault String :=
  match Text.ofUtf8? bs with
  | some s => .ok s
  | none => .error .notUtf8

/-- The fields of a record on one line, without its type. -/
def slotsText (slots : List (Slot × Value)) : String :=
  String.intercalate " " (Value.slotLiterals slots)

mutual

/-- The name that a key becomes. -/
def keyName (shows : Bool) : Value → Except Fault String
  | .text s => .ok s
  | .null => .ok "None"
  | .bool b => .ok (if b then "true" else "false")
  | .int n => .ok (toString n)
  | .float x => .ok (floatName x)
  | .bytes bs => bytesText bs
  | .date d => .ok d.text
  | .moment m => .ok m.interchangeText
  | .tuple items => (keyNames shows items).map (String.intercalate ",")
  | .record _ slots => .ok (slotsText slots)
  | .list _ | .set _ => .error .unfitKey
  | v => objectText shows v

def keyNames (shows : Bool) : List Value → Except Fault (List String)
  | [] => .ok []
  | v :: rest =>
    match keyName shows v with
    | .error f => .error f
    | .ok name => (keyNames shows rest).map (name :: ·)

end

mutual

/-- The document of a value. Opaque objects, among them mappings that cannot be changed, show as
their text when `shows` holds and have no document otherwise. -/
def ofValue (shows : Bool) : Value → Except Fault Json
  | .null => .ok .null
  | .bool b => .ok (.bool b)
  | .int n => .ok (.int n)
  | .float x => .ok (ofFloat x)
  | .text s => .ok (.text s)
  | .bytes bs => (bytesText bs).map .text
  | .list items => (ofValues shows items).map .list
  | .tuple items => (ofValues shows items).map .list
  | .set items => (ofValues shows items).map .list
  | .map entries => (ofEntries shows entries []).map .object
  | .record _ slots => (ofSlots shows slots).map .object
  | .date d => .ok (.text d.text)
  | .moment m => .ok (.text m.interchangeText)
  | .frozenMap entries => (objectText shows (.frozenMap entries)).map .text
  | .callable => (objectText shows .callable).map .text
  | .handle h => (objectText shows (.handle h)).map .text

def ofValues (shows : Bool) : List Value → Except Fault (List Json)
  | [] => .ok []
  | v :: rest =>
    match ofValue shows v with
    | .error f => .error f
    | .ok j => (ofValues shows rest).map (j :: ·)

/-- Entries as fields; of two keys with one name the last has its value. -/
def ofEntries (shows : Bool) : List (Value × Value) → List (String × Json) →
    Except Fault (List (String × Json))
  | [], fields => .ok fields
  | (k, v) :: rest, fields =>
    match keyName shows k, ofValue shows v with
    | .error f, _ => .error f
    | _, .error f => .error f
    | .ok name, .ok j => ofEntries shows rest (putField fields name j)

/-- The fields of a record under the keys that documents use. -/
def ofSlots (shows : Bool) : List (Slot × Value) → Except Fault (List (String × Json))
  | [] => .ok []
  | (s, v) :: rest =>
    match ofValue shows v with
    | .error f => .error f
    | .ok j => (ofSlots shows rest).map ((s.key, j) :: ·)

end

end Playbook.Json
