import Playbook.Config.Types
import Playbook.Store

/-!
The document that a configuration stands for: its declared keys in the order of declaration, as
far as they are there, followed by the keys that were passed through, in their own order. Records
inside values become plain maps of the fields they were given.
-/

namespace Playbook

mutual

/-- A value with the records in it written out as maps. -/
def Value.plain : Value → Value
  | .list items => .list (plainItems items)
  | .tuple items => .tuple (plainItems items)
  | .set items => .set (plainItems items)
  | .map entries => .map (plainEntries entries)
  | .record _ slots => .map (plainSlots slots)
  | v => v

def plainItems : List Value → List Value
  | [] => []
  | v :: rest => v.plain :: plainItems rest

def plainEntries : List (Value × Value) → Entries
  | [] => []
  | (k, v) :: rest => (k.plain, v.plain) :: plainEntries rest

/-- Only the fields that the record was given are written. -/
def plainSlots : List (Slot × Value) → Entries
  | [] => []
  | (s, v) :: rest =>
    if s.origin = .defaulted then plainSlots rest
    else (.text s.key, v.plain) :: plainSlots rest

end

/-- Keys passed through, as entries of a document. -/
def otherEntries (others : List (String × Value)) : Entries :=
  plainEntries (textEntries others)

namespace Settings

/-- The settings as entries, declared keys first. -/
def entries (s : Settings) : Entries :=
  s.timeout.entry "timeout" .int ++ s.waitForCompletion.entry "waitForCompletion" .bool ++
    s.continueOnError.entry "continueOnError" .bool ++ s.baseUrl.entry "baseUrl" .text ++
    otherEntries s.others

def toDocument (s : Settings) : Value := .map s.entries

/-- The setting under a key of the document. -/
def get? (s : Settings) (key : String) : Option Value := s.entries.getText? key

end Settings

namespace Command

def entries (c : Command) : Entries :=
  (.text "command", .text c.name) :: (c.description.entry "description" .text ++
    otherEntries c.others)

def toDocument (c : Command) : Value := .map c.entries

/-- The fields beyond name and description. -/
def params (c : Command) : Entries := textEntries c.others

/-- The field under a key; a missing description is null, any other missing key the fallback. -/
def get (c : Command) (key : String) (fallback : Value) : Value :=
  if key = "command" then .text c.name
  else if key = "description" then c.description.value .text
  else (c.others.lookup key).getD fallback

end Command

namespace Config

/-- The configuration as a document that can be checked again. -/
def toDocument (c : Config) : Value :=
  .map ((.text "version", .text c.version) :: (c.name.entry "name" .text ++
    c.description.entry "description" .text ++ c.settings.entry "settings" Settings.toDocument ++
    [(.text "commands", .list (c.commands.map Command.toDocument))]))

end Config

end Playbook
