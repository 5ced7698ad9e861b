import Playbook.Config.Document
import Playbook.Outcome.Check
import Playbook.Store

/-!
The state that is threaded through the commands of one run. Fields that are null are open; opening
a run fills them from the settings of its configuration and then from built-in defaults.
-/

namespace Playbook

/-- How the backend behind a protocol is reached. -/
inductive Transport where
  | pipe
  | http
  deriving Repr, DecidableEq

def Transport.name : Transport → String
  | .pipe => "stdio"
  | .http => "http"

def Transport.choices : List (String × Transport) :=
  [Transport.pipe, .http].map fun t => (t.name, t)

/-- Settings of the backend behind a protocol. -/
structure RemoteConfig where
  userDataDir : Option String
  transport : Option Transport
  /-- Whether a function for protocol calls is set. -/
  hasExecute : Bool
  deriving Repr, DecidableEq

/-- The state of a run. Fields that whoever runs a command may assign anything to are dynamic. -/
structure Context where
  backend : Backend := .inProcess
  window : Value := .null
  remote : Option RemoteConfig := none
  baseUrl : Option String := none
  timeout : Value := .null
  continueOnError : Value := .null
  results : List CommandResult := []
  startTime : Value := .null
  requestResult : Value := .null
  settings : Value := .null
  windowPolyfills : Value := .null

open Schema Schema.Check

namespace RemoteConfig

def spellings : List Spellings := [["user_data_dir"], ["mcp_type"], ["execute"]]

def ofEntries (entries : Entries) : Check RemoteConfig :=
  (fun dir transport execute _ =>
      RemoteConfig.mk dir transport (execute.getD none).isSome)
    <$> withDefault entries ["user_data_dir"] (optional lenientText) none
    <*> withDefault entries ["mcp_type"] (optional (oneOf Transport.choices)) none
    <*> whenGiven entries ["execute"] (optional callable)
    <*> refuseOthers (usedKeys entries spellings) entries

def toRecord (c : RemoteConfig) : Value :=
  .record "CdpBackendConfig"
    [plainSlot "user_data_dir" (.ofText? c.userDataDir),
      plainSlot "mcp_type" (.ofText? (c.transport.map Transport.name)),
      plainSlot "execute" (if c.hasExecute then .callable else .null)]

def ofSlots (slots : List (Slot × Value)) : RemoteConfig :=
  { userDataDir := (Value.slot? slots "user_data_dir").bind Value.text?
    transport := ((Value.slot? slots "mcp_type").bind Value.text?).bind fun name =>
      Transport.choices.lookup name
    hasExecute := match Value.slot? slots "execute" with
      | some .callable => true
      | _ => false }

def check (lookup : Lookup) : Value → Check RemoteConfig
  | .record "CdpBackendConfig" slots => .pass (ofSlots slots)
  | v => (recordEntries lookup "CdpBackendConfig" v).andThen ofEntries

end RemoteConfig

namespace Context

def spellings : List Spellings :=
  [["backend"], ["window"], ["cdp"], ["base_url"], ["timeout"], ["continue_on_error"], ["results"],
    ["start_time"], ["request_result"], ["settings"], ["window_polyfills"]]

/-- A value that may be left out, as a dynamic field. -/
def orNull {α : Type} (toValue : α → Value) (x : Option α) : Value :=
  match x with
  | none => .null
  | some a => toValue a

def ofEntries (now : Int) (lookup : Lookup) (entries : Entries) : Check Context :=
  (fun backend window remote baseUrl timeout goOn results start state settings polyfills _ =>
      { backend, window, remote, baseUrl, timeout := orNull .int timeout
        continueOnError := orNull .bool goOn, results, startTime := orNull .float start
        requestResult := state, settings := orNull .map settings, windowPolyfills := polyfills })
    <$> withDefault entries ["backend"] (oneOf Backend.choices) .inProcess
    <*> withDefault entries ["window"] anything .null
    <*> withDefault entries ["cdp"] (optional (RemoteConfig.check lookup)) none
    <*> withDefault entries ["base_url"] (optional lenientText) none
    <*> withDefault entries ["timeout"] (optional lenientInt) none
    <*> withDefault entries ["continue_on_error"] (optional lenientBool) none
    <*> withDefault entries ["results"] (listOf (CommandResult.check now lookup)) []
    <*> withDefault entries ["start_time"] (optional lenientFloat) none
    <*> withDefault entries ["request_result"] anything .null
    <*> withDefault entries ["settings"] (optional (mappingOf lookup)) none
    <*> withDefault entries ["window_polyfills"] anything .null
    <*> refuseOthers (usedKeys entries spellings) entries

/-- Checks a mapping that describes a context. -/
def check (now : Int) (lookup : Lookup) (v : Value) : Check Context :=
  (recordEntries lookup "ExecutionContext" v).andThen (ofEntries now lookup)

/-- The names of the fields, in the order of declaration. -/
def names : List String :=
  ["backend", "window", "cdp", "base_url", "timeout", "continue_on_error", "results", "start_time",
    "request_result", "settings", "window_polyfills"]

/-- What the fields hold, by their names. -/
def fields (c : Context) : List (String × Value) :=
  [("backend", .text c.backend.name), ("window", c.window),
    ("cdp", orNull RemoteConfig.toRecord c.remote), ("base_url", .ofText? c.baseUrl),
    ("timeout", c.timeout), ("continue_on_error", c.continueOnError),
    ("results", .list (c.results.map CommandResult.toRecord)), ("start_time", c.startTime),
    ("request_result", c.requestResult), ("settings", c.settings),
    ("window_polyfills", c.windowPolyfills)]

/-- Why a field of a context cannot be assigned. -/
inductive AssignError where
  | unknownField (name : String)
  | wrongType (name : String)
  deriving Repr, DecidableEq

def AssignError.message : AssignError → String
  | .unknownField name => "\"ExecutionContext\" object has no field \"" ++ name ++ "\""
  | .wrongType name => "\"ExecutionContext\" field \"" ++ name ++ "\" does not hold such values"

/-- The value of a list whose items are all checked results. -/
def resultsOf? : List Value → Option (List CommandResult)
  | [] => some []
  | v :: rest =>
    match CommandResult.ofRecord? v, resultsOf? rest with
    | some r, some rs => some (r :: rs)
    | _, _ => none

/-- Assigns a field by its name. -/
def assign (c : Context) (name : String) (v : Value) : Except AssignError Context :=
  let wrong : Except AssignError Context := .error (.wrongType name)
  match name with
  | "backend" =>
    match (v.text?).bind fun name => Backend.choices.lookup name with
    | some b => .ok { c with backend := b }
    | none => wrong
  | "window" => .ok { c with window := v }
  | "cdp" =>
    match v with
    | .null => .ok { c with remote := none }
    | .record "CdpBackendConfig" slots => .ok { c with remote := some (.ofSlots slots) }
    | _ => wrong
  | "base_url" =>
    match v with
    | .null => .ok { c with baseUrl := none }
    | .text s => .ok { c with baseUrl := some s }
    | _ => wrong
  | "timeout" => .ok { c with timeout := v }
  | "continue_on_error" => .ok { c with continueOnError := v }
  | "results" =>
    match v with
    | .list items =>
      match resultsOf? items with
      | some rs => .ok { c with results := rs }
      | none => wrong
    | _ => wrong
  | "start_time" => .ok { c with startTime := v }
  | "request_result" => .ok { c with requestResult := v }
  | "settings" => .ok { c with settings := v }
  | "window_polyfills" => .ok { c with windowPolyfills := v }
  | _ => .error (.unknownField name)

/-- Milliseconds that a command may take unless something else is said. -/
def defaultTimeout : Int := 5000

end Context

/-- A context as an object that can be held on to: what its fields hold, and which of them were
set. A field that was not set holds its default. -/
structure ContextObject where
  content : Context
  assigned : List String

namespace ContextObject

/-- Checks a mapping that describes a context. The fields that it mentions count as set. -/
def check (now : Int) (lookup : Lookup) (v : Value) : Check ContextObject :=
  (recordEntries lookup "ExecutionContext" v).andThen fun entries =>
    (Context.ofEntries now lookup entries).map fun c => ⟨c, usedKeys entries Context.spellings⟩

/-- The fields that were set. -/
def entries (o : ContextObject) : Entries :=
  textEntries (o.content.fields.filter fun field => o.assigned.contains field.1)

end ContextObject

namespace Store

variable {μ : Type}

/-- Text that says something. -/
def saysText? : Value → Option String
  | .text s => if s = "" then none else some s
  | _ => none

/-- The URL that a window reports: the address of its location, or its own. -/
def windowUrl? (s : Store μ) (window : Value) : Option String :=
  match saysText? (s.field (s.field window "location") "href") with
  | some url => some url
  | none => saysText? (s.field window "url")

end Store

namespace Context

variable {μ : Type}

/-- The URL of the window, or else the base URL. -/
def currentUrl (c : Context) (store : Store μ) : String :=
  match store.windowUrl? c.window with
  | some url => url
  | none => c.baseUrl.getD ""

/-- A value that is there, and not the empty text. -/
def orElseText (x : Option String) (fallback : Option String) : Option String :=
  match x with
  | some s => if s = "" then fallback else some s
  | none => fallback

/-- The base URL for an open field: that of the settings, or else that of the window. -/
def defaultBaseUrl (store : Store μ) (window : Value) (settings : Option Settings) : String :=
  (orElseText (settings.bind fun s => s.baseUrl.toOption) (store.windowUrl? window)).getD ""

/-- The timeout for an open field: that of the settings, or else the built-in one. -/
def timeoutFor (settings : Option Settings) : Int :=
  match settings.bind fun s => s.timeout.toOption with
  | some n => if n = 0 then defaultTimeout else n
  | none => defaultTimeout

/-- Whether to go on after a failure, for an open field: as the settings say, or else not. -/
def continueFor (settings : Option Settings) : Bool :=
  (settings.bind fun s => s.continueOnError.toOption).getD false

/-- Fills a field if it is open. -/
def fill (field fallback : Value) : Value := if field.isNull then fallback else field

/-- Fills the open fields from the settings of a configuration and then from built-in defaults. -/
def applyDefaults (c : Context) (store : Store μ) (settings : Option Settings) : Context :=
  { c with
    baseUrl := some (c.baseUrl.getD (defaultBaseUrl store c.window settings))
    timeout := fill c.timeout (.int (timeoutFor settings))
    continueOnError := fill c.continueOnError (.bool (continueFor settings))
    settings := match settings with
      | none => c.settings
      | some s => fill c.settings (store.snapshot true s.toDocument)
    windowPolyfills := match settings with
      | none => c.windowPolyfills
      | some s =>
        fill c.windowPolyfills (store.snapshot true ((s.get? "windowPolyfills").getD .null)) }

end Context

end Playbook
