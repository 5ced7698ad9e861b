import Playbook.Outcome.Types
import Playbook.Schema.Mapping

/-!
The schema of results. Results are checked leniently, because executors hand them over in many
spellings, but keys that are not declared are refused.
-/

namespace Playbook

open Schema Schema.Check

/-- A field that was given or holds a default; the two are not told apart any more. -/
def plainSlot (name : String) (v : Value) : Slot × Value := (⟨name, name, .given⟩, v)

namespace ErrorContext

def spellings : List Spellings := [["url"], ["timestamp"]]

def ofEntries (now : Int) (entries : Entries) : Check ErrorContext :=
  (fun url timestamp _ => ErrorContext.mk url timestamp)
    <$> withDefault entries ["url"] lenientText ""
    <*> withDefault entries ["timestamp"] lenientInt now
    <*> refuseOthers (usedKeys entries spellings) entries

def toRecord (c : ErrorContext) : Value :=
  .record "ErrorContext" [plainSlot "url" (.text c.url), plainSlot "timestamp" (.int c.timestamp)]

def ofSlots (slots : List (Slot × Value)) : ErrorContext :=
  { url := ((Value.slot? slots "url").bind Value.text?).getD ""
    timestamp := ((Value.slot? slots "timestamp").bind Value.asInteger?).getD 0 }

/-- Checks an error context; a missing time stamp is the present time. -/
def check (now : Int) (lookup : Lookup) : Value → Check ErrorContext
  | .record "ErrorContext" slots => .pass (ofSlots slots)
  | v => (recordEntries lookup "ErrorContext" v).andThen (ofEntries now)

end ErrorContext

namespace CommandError

def spellings : List Spellings :=
  [["type"], ["message"], ["selector"], ["context"], ["suggestions"]]

def ofEntries (now : Int) (lookup : Lookup) (entries : Entries) : Check CommandError :=
  (fun type message selector context suggestions _ =>
      CommandError.mk type message selector context suggestions)
    <$> required entries ["type"] (oneOf ErrorType.choices)
    <*> required entries ["message"] lenientText
    <*> withDefault entries ["selector"] (optional lenientText) none
    <*> withDefault entries ["context"] (ErrorContext.check now lookup) ⟨"", now⟩
    <*> withDefault entries ["suggestions"] (optional (listOf lenientText)) none
    <*> refuseOthers (usedKeys entries spellings) entries

def toRecord (e : CommandError) : Value :=
  .record "CommandError"
    [plainSlot "type" (.text e.type.name), plainSlot "message" (.text e.message),
      plainSlot "selector" (.ofText? e.selector), plainSlot "context" e.context.toRecord,
      plainSlot "suggestions" (match e.suggestions with
        | none => .null
        | some items => .list (items.map .text))]

def ofSlots (slots : List (Slot × Value)) : CommandError :=
  { type := match Value.slot? slots "type" with
      | some (.text name) => (ErrorType.choices.lookup name).getD .executionError
      | _ => .executionError
    message := ((Value.slot? slots "message").bind Value.text?).getD ""
    selector := (Value.slot? slots "selector").bind Value.text?
    context := match Value.slot? slots "context" with
      | some (.record _ inner) => ErrorContext.ofSlots inner
      | _ => ⟨"", 0⟩
    suggestions := match Value.slot? slots "suggestions" with
      | some (.list items) => some (items.filterMap Value.text?)
      | _ => none }

def check (now : Int) (lookup : Lookup) : Value → Check CommandError
  | .record "CommandError" slots => .pass (ofSlots slots)
  | v => (recordEntries lookup "CommandError" v).andThen (ofEntries now lookup)

end CommandError

namespace CommandResult

def spellings : List Spellings :=
  [["command"], ["command_index", "commandIndex"], ["success"], ["duration"], ["error"], ["data"]]

/-- An integer that is not negative. -/
def checkNatural (v : Value) : Check Nat :=
  (lenientInt v).andThen fun n => (atLeast 0 n).map Int.toNat

/-- A duration. A double is rounded, a half to the even neighbour, and is not negative then. -/
def checkDuration : Value → Check Nat
  | .float x =>
    match Decimal.readFloat x with
    | .finite b => .pass b.roundHalfEven.toNat
    | .infinite _ => reject .infiniteDuration
    | .notANumber => reject .notRoundable
  | v => checkNatural v

def ofEntries (now : Int) (lookup : Lookup) (entries : Entries) : Check CommandResult :=
  (fun command index success duration error data _ =>
      CommandResult.mk command index success duration error data)
    <$> required entries ["command"] lenientText
    <*> required entries ["command_index", "commandIndex"] checkNatural
    <*> required entries ["success"] lenientBool
    <*> withDefault entries ["duration"] checkDuration 0
    <*> withDefault entries ["error"] (optional (CommandError.check now lookup)) none
    <*> withDefault entries ["data"] anything .null
    <*> refuseOthers (usedKeys entries spellings) entries

def toRecord (r : CommandResult) : Value :=
  .record "CommandResult"
    [plainSlot "command" (.text r.command), plainSlot "command_index" (.int r.index),
      plainSlot "success" (.bool r.success), plainSlot "duration" (.int r.duration),
      plainSlot "error" (match r.error with
        | none => .null
        | some e => e.toRecord),
      plainSlot "data" r.data]

def ofSlots (slots : List (Slot × Value)) : CommandResult :=
  let natural := fun name =>
    (((Value.slot? slots name).bind Value.asInteger?).getD 0).toNat
  { command := ((Value.slot? slots "command").bind Value.text?).getD ""
    index := natural "command_index"
    success := match Value.slot? slots "success" with
      | some (.bool b) => b
      | _ => false
    duration := natural "duration"
    error := match Value.slot? slots "error" with
      | some (.record _ inner) => some (CommandError.ofSlots inner)
      | _ => none
    data := (Value.slot? slots "data").getD .null }

/-- The result that a value is, when it was checked before. -/
def ofRecord? : Value → Option CommandResult
  | .record "CommandResult" slots => some (ofSlots slots)
  | _ => none

/-- Checks a result; time stamps that are missing in it are the present time. -/
def check (now : Int) (lookup : Lookup) (v : Value) : Check CommandResult :=
  match ofRecord? v with
  | some r => .pass r
  | none => (recordEntries lookup "CommandResult" v).andThen (ofEntries now lookup)

end CommandResult

namespace RunResult

def spellings : List Spellings :=
  [["execution_id"], ["success"], ["config_name"], ["backend"], ["total_commands"],
    ["success_count"], ["error_count"], ["duration"], ["results"]]

def ofEntries (now : Int) (lookup : Lookup) (entries : Entries) : Check RunResult :=
  (fun _ success name backend total ok errors duration results _ =>
      RunResult.mk success name backend total ok errors duration results)
    <$> withDefault entries ["execution_id"] lenientText ""
    <*> required entries ["success"] lenientBool
    <*> withDefault entries ["config_name"] (optional lenientText) none
    <*> withDefault entries ["backend"] (optional (oneOf Backend.choices)) none
    <*> required entries ["total_commands"] lenientInt
    <*> required entries ["success_count"] lenientInt
    <*> required entries ["error_count"] lenientInt
    <*> required entries ["duration"] lenientInt
    <*> withDefault entries ["results"] (listOf (CommandResult.check now lookup)) []
    <*> refuseOthers (usedKeys entries spellings) entries

/-- The account of a run, which may go by an identifier. -/
def toRecord (identifier : Option String) (r : RunResult) : Value :=
  .record "ExecutionResult"
    ((identifier.map fun name => plainSlot "execution_id" (.text name)).toList ++
      [plainSlot "success" (.bool r.success), plainSlot "config_name" (.ofText? r.configName),
        plainSlot "backend" (.ofText? (r.backend.map Backend.name)),
        plainSlot "total_commands" (.int r.totalCommands),
        plainSlot "success_count" (.int r.successCount),
        plainSlot "error_count" (.int r.errorCount), plainSlot "duration" (.int r.duration),
        plainSlot "results" (.list (r.results.map CommandResult.toRecord))])

def check (now : Int) (lookup : Lookup) (v : Value) : Check RunResult :=
  (recordEntries lookup "ExecutionResult" v).andThen (ofEntries now lookup)

end RunResult

end Playbook
