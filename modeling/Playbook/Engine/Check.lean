import Playbook.Engine.Run

/-!
The schemas of what an engine is set up with and of what it tells about progress.
-/

namespace Playbook

open Schema Schema.Check

namespace EngineConfig

def spellings : List Spellings := [["window_replacing_commands"], ["release_replaced_windows"]]

def ofEntries (entries : Entries) : Check EngineConfig :=
  (fun replacing releases _ => EngineConfig.mk replacing releases)
    <$> withDefault entries ["window_replacing_commands"] (listOf lenientText)
      ["navigate", "click", "submit"]
    <*> withDefault entries ["release_replaced_windows"] lenientBool true
    <*> refuseOthers (usedKeys entries spellings) entries

def check (lookup : Lookup) (v : Value) : Check EngineConfig :=
  (recordEntries lookup "ExecutorConfig" v).andThen ofEntries

def toRecord (c : EngineConfig) : Value :=
  .record "ExecutorConfig"
    [plainSlot "window_replacing_commands" (.list (c.replacing.map .text)),
      plainSlot "release_replaced_windows" (.bool c.releases)]

end EngineConfig

namespace Progress

def spellings : List Spellings :=
  [["total_commands"], ["current_command"], ["current_command_name"], ["status"], ["elapsed_ms"]]

def ofEntries (entries : Entries) : Check Progress :=
  (fun total current command status elapsed _ =>
      Progress.mk total current command status elapsed)
    <$> required entries ["total_commands"] lenientInt
    <*> required entries ["current_command"] lenientInt
    <*> required entries ["current_command_name"] lenientText
    <*> required entries ["status"] (oneOf Status.choices)
    <*> required entries ["elapsed_ms"] lenientInt
    <*> refuseOthers (usedKeys entries spellings) entries

def check (lookup : Lookup) (v : Value) : Check Progress :=
  (recordEntries lookup "ExecutionProgress" v).andThen ofEntries

def toRecord (p : Progress) : Value :=
  .record "ExecutionProgress"
    [plainSlot "total_commands" (.int p.total), plainSlot "current_command" (.int p.current),
      plainSlot "current_command_name" (.text p.command), plainSlot "status" (.text p.status.name),
      plainSlot "elapsed_ms" (.int p.elapsed)]

end Progress

end Playbook
