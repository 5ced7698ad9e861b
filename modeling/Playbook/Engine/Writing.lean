import Playbook.Config.Document
import Playbook.Engine.Hazard

/-!
Settings that cannot be written out. A document holds mappings where its settings hold records, and
a mapping is neither a member of a set nor a key. So a set of records, each of them a good member,
keeps its settings from having a document at all. So does an opaque object that is taken for a
record: records hold what writes them out under a name that any object may use for something else.
-/

namespace Playbook

/-- Whether a value can be a key: what can be changed cannot. -/
def Value.isKey (lookup : Lookup) : Value → Bool
  | .list _ | .map _ | .frozenMap _ | .set _ => false
  | .handle h => (lookup h).isNone
  | .tuple items => keysOnly items
  | _ => true
where
  keysOnly : List Value → Bool
    | [] => true
    | v :: rest => v.isKey lookup && keysOnly rest

mutual

/-- Whether whatever is a member of a set or a key in a value can be one. -/
def Value.isConsistent (lookup : Lookup) : Value → Bool
  | .list items | .tuple items => rowIsConsistent lookup items
  | .set items => Value.isKey.keysOnly lookup items && rowIsConsistent lookup items
  | .map entries => entriesAreConsistent lookup entries
  | _ => true

def rowIsConsistent (lookup : Lookup) : List Value → Bool
  | [] => true
  | v :: rest => v.isConsistent lookup && rowIsConsistent lookup rest

def entriesAreConsistent (lookup : Lookup) : List (Value × Value) → Bool
  | [] => true
  | (k, v) :: rest => k.isKey lookup && v.isConsistent lookup && entriesAreConsistent lookup rest

end

/-- Whether an object is taken for a record because it has anything under the name of a record's own
writer. -/
def Store.posesAsRecord {μ : Type} (s : Store μ) (h : Handle) : Bool :=
  (s.attribute? (.handle h) "__pydantic_serializer__").isSome

/-- What is raised when settings are written out as a document. -/
def Settings.unwritten? {μ : Type} (settings : Settings) (store : Store μ) : Option Failure :=
  let document := store.snapshot true settings.toDocument
  if document.holdsHandle store.posesAsRecord then
    some ⟨"TypeError", "object cannot be converted to 'SchemaSerializer'"⟩
  else if document.isConsistent store.lookup then none
  else some ⟨"TypeError", "unhashable type: 'dict'"⟩

/-- The hazards of writing out settings. -/
def Hazards.ofWriting {κ σ : Type} : Hazards κ σ :=
  { Hazards.never with writing := fun settings s => settings.unwritten? s.store }

end Playbook
