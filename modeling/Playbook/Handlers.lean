import Playbook.Operation

/-!
What the commands of an operator come to: checking a configuration file, trying a configuration on
a page that is fetched for it, and running one on a window that is there. Errors of configurations
and of fetching are reported, not raised.
-/

namespace Playbook

/-- What an operator asks for. -/
structure OperatorInput where
  configPath : String
  /-- The page to try the configuration on, before that of its settings. -/
  url : Option String
  jsonOutput : Bool
  verbose : Bool
  fetchOptions : Entries
  backend : Option Backend

/-- The outcome of checking a configuration. -/
structure VerifyResult where
  valid : Bool
  config : Option Config
  error : Option String

/-- The outcome of running a configuration. -/
structure TestResult where
  success : Bool
  config : Option Config
  result : Option RunResult
  error : Option String

open Schema Schema.Check

namespace OperatorInput

def spellings : List Spellings :=
  [["config_path"], ["url"], ["json_output"], ["verbose"], ["fetch_options"], ["backend"]]

def ofEntries (lookup : Lookup) (entries : Entries) : Check OperatorInput :=
  (fun path url json verbose options backend _ =>
      OperatorInput.mk path url json verbose options backend)
    <$> required entries ["config_path"] lenientText
    <*> withDefault entries ["url"] (optional lenientText) none
    <*> withDefault entries ["json_output"] lenientBool false
    <*> withDefault entries ["verbose"] lenientBool false
    <*> withDefault entries ["fetch_options"] (mappingOf lookup) []
    <*> withDefault entries ["backend"] (optional (oneOf Backend.choices)) none
    <*> refuseOthers (usedKeys entries spellings) entries

def check (lookup : Lookup) (v : Value) : Check OperatorInput :=
  (recordEntries lookup "OperatorCliContext" v).andThen (ofEntries lookup)

def toRecord (i : OperatorInput) : Value :=
  .record "OperatorCliContext"
    [plainSlot "config_path" (.text i.configPath), plainSlot "url" (.ofText? i.url),
      plainSlot "json_output" (.bool i.jsonOutput), plainSlot "verbose" (.bool i.verbose),
      plainSlot "fetch_options" (.map i.fetchOptions),
      plainSlot "backend" (.ofText? (i.backend.map Backend.name))]

end OperatorInput

namespace VerifyResult

def ofEntries (lookup : Lookup) (entries : Entries) : Check VerifyResult :=
  (fun valid config error _ => VerifyResult.mk valid config error)
    <$> required entries ["valid"] lenientBool
    <*> withDefault entries ["config"] (optional (Config.check lookup ·)) none
    <*> withDefault entries ["error"] (optional lenientText) none
    <*> refuseOthers (usedKeys entries [["valid"], ["config"], ["error"]]) entries

def toRecord (r : VerifyResult) : Value :=
  .record "VerifyResult"
    [plainSlot "valid" (.bool r.valid), plainSlot "config" (match r.config with
        | none => .null
        | some c => c.toRecord),
      plainSlot "error" (.ofText? r.error)]

def check (lookup : Lookup) (v : Value) : Check VerifyResult :=
  (recordEntries lookup "VerifyResult" v).andThen (ofEntries lookup)

end VerifyResult

namespace TestResult

def ofEntries (now : Int) (lookup : Lookup) (entries : Entries) : Check TestResult :=
  (fun success config result error _ => TestResult.mk success config result error)
    <$> required entries ["success"] lenientBool
    <*> withDefault entries ["config"] (optional (Config.check lookup ·)) none
    <*> withDefault entries ["result"] (optional (RunResult.check now lookup)) none
    <*> withDefault entries ["error"] (optional lenientText) none
    <*> refuseOthers (usedKeys entries [["success"], ["config"], ["result"], ["error"]]) entries

def check (now : Int) (lookup : Lookup) (v : Value) : Check TestResult :=
  (recordEntries lookup "TestResult" v).andThen (ofEntries now lookup)

end TestResult

/-- Checks the configuration file at a path. Only faults outside the family of configuration
errors escape. -/
def verifyFile (loader : Loader) (path : String) : Except Yaml.Misfit VerifyResult :=
  match loader.loadFile path with
  | .ok config => .ok { valid := true, config := some config, error := none }
  | .error (.config e) => .ok { valid := false, config := none, error := some e.message }
  | .error (.fault kind) => .error kind

/-- A test that ended before anything was run. -/
def TestResult.stopped (config : Option Config) (error : String) : TestResult :=
  { success := false, config, result := none, error := some error }

/-- A test that was run. -/
def TestResult.finished (config : Config) (result : RunResult) : TestResult :=
  { success := result.success, config := some config, result := some result, error := none }

/-- What is said when no page is named. -/
def missingUrl : String :=
  "URL is required for test command (provide via CLI or baseUrl in config)"

/-- The page to try a configuration on: the one asked for, or else that of its settings. -/
def testUrl? (input : OperatorInput) (config : Config) : Option String :=
  Context.orElseText (Context.orElseText input.url
    (config.settings.toOption.bind fun s => s.baseUrl.toOption)) none

/-- The context that a run on a window starts from. A backend that says nothing leaves the choice
to the library; any other is checked with the context. -/
def windowContext {μ : Type} (store : Store μ) (backend window requestResult : Value) : Value :=
  .ofFields
    [("backend", if store.isTruthy backend then backend else .text Backend.inProcess.name),
      ("window", window), ("request_result", requestResult)]

/-- Gets the window of a page, or fails. -/
abbrev Fetch (κ σ : Type) :=
  String → Entries → Scene κ σ → Except Failure Value × Scene κ σ

namespace Engine

variable {κ σ : Type}

/-- Runs a loaded configuration on a window. -/
def runOnWindow (e : Engine κ σ) (config : Config) (backend window requestResult : Value)
    (r : Run κ σ) (hz : Hazards κ σ := .never) : Except OperationError TestResult × Run κ σ :=
  let context := windowContext r.scene.store backend window requestResult
  match e.runConfig config (.value context) r hz with
  | (.error err, r) => (.error err, r)
  | (.ok result, r) => (.ok (.finished config result), r)

/-- Loads a configuration, fetches the page to try it on, and runs it there. -/
def handleTest (e : Engine κ σ) (loader : Loader) (fetch : Fetch κ σ) (input : OperatorInput)
    (r : Run κ σ) (hz : Hazards κ σ := .never) : Except OperationError TestResult × Run κ σ :=
  match loader.loadFile input.configPath with
  | .error (.fault kind) => (.error (.load (.fault kind)), r)
  | .error (.config err) => (.ok (.stopped none err.message), r)
  | .ok config =>
    match testUrl? input config with
    | none => (.ok (.stopped (some config) missingUrl), r)
    | some url =>
      let r := r.note (.fetch url input.fetchOptions)
      match fetch url input.fetchOptions r.scene with
      | (.error f, scene) =>
        (.ok (.stopped (some config) ("Failed to fetch " ++ url ++ ": " ++ f.text)),
          { r with scene })
      | (.ok window, scene) =>
        let backend := Value.ofText? (input.backend.map Backend.name)
        e.runOnWindow config backend window (scene.store.sessionState window) { r with scene } hz

/-- Loads a configuration and runs it on a window that is there. -/
def handleExecute (e : Engine κ σ) (loader : Loader) (window : Value) (source : Source)
    (requestResult backend : Value) (r : Run κ σ) (hz : Hazards κ σ := .never) :
    Except OperationError TestResult × Run κ σ :=
  match loader.loadOperation r.scene.store.lookup source with
  | .error (.fault kind) => (.error (.load (.fault kind)), r)
  | .error (.config err) => (.ok (.stopped none err.message), r)
  | .ok config => e.runOnWindow config backend window requestResult r hz

end Engine

end Playbook
