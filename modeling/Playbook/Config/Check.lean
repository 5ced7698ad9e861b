import Playbook.Config.Types
import Playbook.Schema.Mapping
import Playbook.Url.Absolute

/-!
The schema of configurations. A document passes exactly when every declared key holds what it
should; otherwise every violation is reported, in the order in which the keys are declared, those
of settings and commands under their place in the document. Which texts are URLs, and which can be
read as keys at all, is up to the library that does the checks.
-/

namespace Playbook

open Schema Schema.Check

/-- What a library for checks decides about texts. -/
structure Schema.Texts where
  /-- Whether a text is an absolute URL. -/
  url : String → Bool := Url.isAbsolute
  /-- Whether a text can be read as a key. All text can that is made of characters. -/
  key : String → Bool := fun _ => true

/-- Whether a key is a text that cannot be read. -/
def Schema.Texts.stopsAt (texts : Texts) : Value → Bool
  | .text s => !texts.key s
  | _ => false

/-- A mapping with a key that cannot be read is gone through no further: that is all that is
reported of it. -/
def Schema.readingKeys {α : Type} (texts : Texts) (entries : Entries) (check : Check α) : Check α :=
  if entries.any fun e => texts.stopsAt e.1 then reject .notUtf8 else check

/-- A declared key of a document under one of its spellings. -/
def Schema.fieldOf {α : Type} (entries : Entries) (keys : Spellings) (check : Value → Check α) :
    Check (Field α) :=
  (whenGiven entries keys (optional check)).map Field.ofFound

/-- A declared field of a record, by its name. -/
def Field.ofSlots {α : Type} (slots : List (Slot × Value)) (name : String)
    (read : Value → Option α) : Field α :=
  match slots.find? fun e => e.1.name == name with
  | none => .absent
  | some (slot, v) =>
    if slot.origin = .defaulted then .absent
    else match read v with
      | some a => .given a
      | none => .null

/-- The further fields of a record, in order. -/
def otherSlots (slots : List (Slot × Value)) : List (String × Value) :=
  slots.filterMap fun (s, v) => if s.origin = .extra then some (s.name, v) else none

/-- A declared field as a field of a record. -/
def Field.slot {α : Type} (name key : String) (toValue : α → Value) (f : Field α) : Slot × Value :=
  (⟨name, key, if f.isPresent then .given else .defaulted⟩, f.value toValue)

/-- Passed-through keys as fields of a record. -/
def extraSlots (others : List (String × Value)) : List (Slot × Value) :=
  others.map fun (k, v) => (⟨k, k, .extra⟩, v)

namespace Settings

/-- The declared keys with their spellings. -/
def spellings : List Spellings :=
  [["timeout"], ["waitForCompletion", "wait_for_completion"],
    ["continueOnError", "continue_on_error"], ["baseUrl", "base_url"]]

def checkTimeout (v : Value) : Check Int :=
  (strictInt v).andThen fun n => if 0 < n then .pass n else reject .timeoutNotPositive

def checkBaseUrl (v : Value) (texts : Texts := {}) : Check String :=
  (strictText v).andThen fun s => if texts.url s then .pass s else reject .badBaseUrl

/-- Settings in the entries of a mapping. -/
def ofEntries (entries : Entries) (texts : Texts := {}) : Check Settings :=
  readingKeys texts entries <|
    Settings.mk
      <$> fieldOf entries ["timeout"] checkTimeout
      <*> fieldOf entries ["waitForCompletion", "wait_for_completion"] strictBool
      <*> fieldOf entries ["continueOnError", "continue_on_error"] strictBool
      <*> fieldOf entries ["baseUrl", "base_url"] (checkBaseUrl · texts)
      <*> keepOthers (usedKeys entries spellings) entries

/-- The settings that a record of their type stands for. -/
def ofSlots (slots : List (Slot × Value)) : Settings :=
  { timeout := .ofSlots slots "timeout" fun
      | .int n => some n
      | _ => none
    waitForCompletion := .ofSlots slots "wait_for_completion" fun
      | .bool b => some b
      | _ => none
    continueOnError := .ofSlots slots "continue_on_error" fun
      | .bool b => some b
      | _ => none
    baseUrl := .ofSlots slots "base_url" Value.text?
    others := otherSlots slots }

def toRecord (s : Settings) : Value :=
  .record "Settings"
    (s.timeout.slot "timeout" "timeout" .int
      :: s.waitForCompletion.slot "wait_for_completion" "waitForCompletion" .bool
      :: s.continueOnError.slot "continue_on_error" "continueOnError" .bool
      :: s.baseUrl.slot "base_url" "baseUrl" .text
      :: extraSlots s.others)

/-- A mapping, or settings that were checked before. -/
def check (lookup : Lookup) (v : Value) (texts : Texts := {}) : Check Settings :=
  match v with
  | .record "Settings" slots => .pass (ofSlots slots)
  | v => (recordEntries lookup "Settings" v).andThen (ofEntries · texts)

end Settings

namespace Command

def spellings : List Spellings := [["command"], ["description"]]

def checkName (v : Value) : Check String :=
  (strictText v).andThen fun s => if s = "" then reject .emptyCommand else .pass s

def ofEntries (entries : Entries) (texts : Texts := {}) : Check Command :=
  readingKeys texts entries <|
    Command.mk
      <$> required entries ["command"] checkName
      <*> fieldOf entries ["description"] strictText
      <*> keepOthers (usedKeys entries spellings) entries

def ofSlots (slots : List (Slot × Value)) : Command :=
  { name := ((Value.slot? slots "command").bind Value.text?).getD ""
    description := .ofSlots slots "description" Value.text?
    others := otherSlots slots }

def toRecord (c : Command) : Value :=
  .record "Command"
    ((⟨"command", "command", .given⟩, .text c.name)
      :: c.description.slot "description" "description" .text
      :: extraSlots c.others)

/-- A mapping, or a command that was checked before. -/
def check (lookup : Lookup) (v : Value) (texts : Texts := {}) : Check Command :=
  match v with
  | .record "Command" slots => .pass (ofSlots slots)
  | v => (recordEntries lookup "Command" v).andThen (ofEntries · texts)

end Command

namespace Config

def checkVersion (v : Value) : Check String :=
  (strictText v).andThen fun s => if s = "" then reject .emptyVersion else .pass s

def checkCommands (lookup : Lookup) (v : Value) (texts : Texts := {}) : Check (List Command) :=
  (listOf (Command.check lookup · texts) v).andThen fun commands =>
    if commands.isEmpty then reject .noCommands else .pass commands

/-- A configuration in the entries of a mapping; keys that are not declared are ignored. -/
def ofEntries (lookup : Lookup) (entries : Entries) (texts : Texts := {}) : Check Config :=
  Config.mk
    <$> required entries ["version"] checkVersion
    <*> fieldOf entries ["name"] strictText
    <*> fieldOf entries ["description"] strictText
    <*> fieldOf entries ["settings"] (Settings.check lookup · texts)
    <*> required entries ["commands"] (checkCommands lookup · texts)

def ofSlots (slots : List (Slot × Value)) : Config :=
  { version := ((Value.slot? slots "version").bind Value.text?).getD ""
    name := .ofSlots slots "name" Value.text?
    description := .ofSlots slots "description" Value.text?
    settings := .ofSlots slots "settings" fun
      | .record _ inner => some (Settings.ofSlots inner)
      | _ => none
    commands := match Value.slot? slots "commands" with
      | some (.list items) => items.filterMap fun
        | .record _ inner => some (Command.ofSlots inner)
        | _ => none
      | _ => [] }

def toRecord (c : Config) : Value :=
  .record "OperationConfig"
    [(⟨"version", "version", .given⟩, .text c.version),
      c.name.slot "name" "name" .text,
      c.description.slot "description" "description" .text,
      c.settings.slot "settings" "settings" Settings.toRecord,
      (⟨"commands", "commands", .given⟩, .list (c.commands.map Command.toRecord))]

/-- A mapping, or a configuration that was checked before. -/
def check (lookup : Lookup) (v : Value) (texts : Texts := {}) : Check Config :=
  match v with
  | .record "OperationConfig" slots => .pass (ofSlots slots)
  | v => (recordEntries lookup "OperationConfig" v).andThen (ofEntries lookup · texts)

end Config

end Playbook
