import Playbook.Value

/-!
Operation configurations: a format tag, run defaults and a row of commands. Settings and commands
keep every key that they do not declare.
-/

namespace Playbook

/-- A declared key of a document: left out, null, or given a value. -/
inductive Field (α : Type) where
  | absent
  | null
  | given (a : α)
  deriving Repr, DecidableEq

namespace Field

variable {α : Type}

/-- The value, when there is one. -/
def toOption : Field α → Option α
  | .absent | .null => none
  | .given a => some a

/-- A key that was found, with null or a value under it, or was not found. -/
def ofFound : Option (Option α) → Field α
  | none => .absent
  | some none => .null
  | some (some a) => .given a

/-- Whether the key is there. -/
def isPresent : Field α → Bool
  | .absent => false
  | _ => true

/-- What a document holds under the key; nothing when it is left out. -/
def entry (key : String) (toValue : α → Value) : Field α → Entries
  | .absent => []
  | .null => [(.text key, .null)]
  | .given a => [(.text key, toValue a)]

/-- The value, or null. -/
def value (toValue : α → Value) : Field α → Value
  | .absent | .null => .null
  | .given a => toValue a

end Field

/-- Run defaults. -/
structure Settings where
  timeout : Field Int
  waitForCompletion : Field Bool
  continueOnError : Field Bool
  baseUrl : Field String
  /-- Keys that are passed through to whatever runs the commands. -/
  others : List (String × Value)

/-- One declarative instruction. -/
structure Command where
  name : String
  description : Field String
  /-- The keys that belong to the kind of command. -/
  others : List (String × Value)

/-- A checked operation configuration. -/
structure Config where
  version : String
  name : Field String
  description : Field String
  settings : Field Settings
  commands : List Command

/-- Entries under text keys. -/
def textEntries (fields : List (String × Value)) : Entries :=
  fields.map fun (k, v) => (.text k, v)

end Playbook
