import Playbook.Engine.Hazard

/-!
Running a configuration command by command. Each command is announced, dispatched through the
registry as it stands at that moment, recorded, and reported; whatever goes wrong in it becomes a
failed result. A successful command may hand over a new window, which then takes the place of the
active one. The first failure ends the run unless the context says to go on.
-/

namespace Playbook

/-- What an engine does with windows. -/
structure EngineConfig where
  /-- The commands whose result may carry a new window. -/
  replacing : List String := ["navigate", "click", "submit"]
  /-- Whether replaced windows are released. -/
  releases : Bool := true
  deriving Repr, DecidableEq

/-- Runs configurations: whom it works with, which registry it dispatches through, and whom it
tells about progress. -/
structure Engine (κ σ : Type) where
  collaborators : Collaborators κ σ
  /-- A registry of its own, or the default one as it stands at each dispatch. -/
  registry : Option String := none
  config : EngineConfig := {}
  onProgress : Option κ := none
  /-- Whether a progress callback counts as true. -/
  counts : κ → Bool := fun _ => true

/-- Seconds that a start time stands for. -/
def startSeconds : Value → Except Clock.Fault Float
  | .float x => .ok x
  | .int n =>
    let x := Float.ofInt n
    if x.isInf then .error .oversized else .ok x
  | .bool b => .ok (if b then 1.0 else 0.0)
  | _ => .error .notNumber

/-- Milliseconds between a start time and the clock. -/
def elapsedSince (start : Value) (now : Float) : Except Clock.Fault Int :=
  match startSeconds start with
  | .error f => .error f
  | .ok x => Clock.elapsed x now

/-- Whether two values are one and the same object. -/
def Value.isSameObject : Value → Value → Bool
  | .handle a, .handle b => a == b
  | _, _ => false

/-- The new window that a payload carries, under either of its names. -/
def Store.newWindow {μ : Type} (s : Store μ) (data : Value) : Value :=
  let found := s.field data "newWindow"
  if found.isNull then s.field data "new_window" else found

/-- The session state that a window carries, under either of its names. -/
def Store.sessionState {μ : Type} (s : Store μ) (window : Value) : Value :=
  let found := s.field window "request_result"
  if found.isNull then s.field window "requestResult" else found

/-- A member that is there and not null. -/
def Store.presentAttribute? {μ : Type} (s : Store μ) (v : Value) (name : String) :
    Option (Store.Member μ) :=
  match s.attribute? v name with
  | some (.plain .null) => none
  | found => found

/-- How many violations a check found, in words. -/
def issueCountText (type : String) (issues : List Schema.Issue) : String :=
  toString issues.length ++ " validation error" ++ (if issues.length = 1 then "" else "s") ++
    " for " ++ type

/-- What is said when a record of the named type does not pass its check: an infinite duration
stands before all else. -/
def rejectionText (type : String) (issues : List Schema.Issue) : String :=
  if issues.any fun i => i.cause == .infiniteDuration then Schema.Cause.infiniteDuration.message
  else issueCountText type issues

namespace Engine

variable {κ σ : Type}

/-- A failed result of a command, with the present time and the URL of the active window. -/
def failure (command : String) (index : Nat) (message : String) (scene : Scene κ σ) :
    Except Clock.Fault CommandResult :=
  match Clock.milliseconds scene.clock with
  | .error f => .error f
  | .ok now =>
    .ok (CommandResult.failed command index
      { type := .executionError, message, selector := none
        context := ⟨scene.context.currentUrl scene.store, now⟩, suggestions := none })

/-- The callback that is told about progress. One that counts as false is passed over, as if there
were none. -/
def callback? (e : Engine κ σ) : Option κ := e.onProgress.filter e.counts

/-- Tells the callback, if there is one, how far a command has come. What the callback gives back
or raises does not count. -/
def emitProgress (e : Engine κ σ) (total index : Nat) (command : String) (status : Status)
    (start : Value) (r : Run κ σ) : Except Clock.Fault Unit × Run κ σ :=
  match e.callback? with
  | none => (.ok (), r)
  | some callback =>
    match elapsedSince start r.scene.clock with
    | .error f => (.error f, r)
    | .ok elapsed =>
      let p : Progress := { total, current := index, command, status, elapsed }
      let r := r.note (.progress p)
      let (_, scene) := e.collaborators.notify callback p r.scene
      (.ok (), { r with scene })

/-- What an outcome is recorded as, or what is wrong with it. -/
def resultOf (command : Command) (scene : Scene κ σ) :
    Except Failure Outcome → Except String CommandResult
  | .error f => .error f.describe
  | .ok (.result result) => .ok result
  | .ok (.value .null) =>
    .error ("Executor for " ++ Text.quoted command.name ++ " returned no result")
  | .ok (.value v) =>
    let now := (Clock.milliseconds scene.clock).toOption.getD 0
    match CommandResult.check now scene.store.lookup v with
    | .pass result => .ok result
    | .fail issues => .error (rejectionText "CommandResult" issues)

/-- Dispatches one command through the registry, and gives the result to record. -/
def dispatch (e : Engine κ σ) (command : Command) (index : Nat) (r : Run κ σ) :
    Except Clock.Fault CommandResult × Run κ σ :=
  match (r.scene.registries.get e.registry).get? command.name with
  | none =>
    (failure command.name index ("Unknown command type: " ++ command.name) r.scene, r)
  | some executor =>
    let window := r.scene.context.window
    let r := r.note (.call command.name index window)
    let (outcome, scene) := e.collaborators.execute executor window command index r.scene
    let r := { r with scene }
    match resultOf command scene outcome with
    | .ok result => (.ok result, r)
    | .error message =>
      let name := if command.name = "" then "unknown" else command.name
      (failure name index message scene, r)

/-- What goes wrong when a command is dispatched, in words, and where the run stands then. -/
def trouble? (e : Engine κ σ) (command : Command) (index : Nat) (r : Run κ σ) :
    Option (String × Run κ σ) :=
  match (r.scene.registries.get e.registry).get? command.name with
  | none => some ("Unknown command type: " ++ command.name, r)
  | some executor =>
    let window := r.scene.context.window
    let r := r.note (.call command.name index window)
    let (outcome, scene) := e.collaborators.execute executor window command index r.scene
    match resultOf command scene outcome with
    | .ok _ => none
    | .error message => some (message, { r with scene })

/-- Calls what releases a window: `abort` of its happyDOM entry, or else its own `close`. -/
def release (e : Engine κ σ) (window : Value) (r : Run κ σ) : Run κ σ :=
  let store := r.scene.store
  let first := store.field window "happyDOM"
  let entry := if store.isTruthy first then first else store.field window "happy_dom"
  let call := fun (owner : Value) (name : String) (m : Store.Member κ) =>
    match owner, m with
    | .handle h, .method routine => (r.callMethod e.collaborators routine h name []).2
    | _, _ => r
  match store.presentAttribute? entry "abort" with
  | some m => call entry "abort" m
  | none =>
    match store.presentAttribute? window "close" with
    | some m => call window "close" m
    | none => r

/-- Releases the active window, if there is one and it does not stay. -/
def releaseReplaced (e : Engine κ σ) (old new : Value) (r : Run κ σ) : Run κ σ :=
  if e.config.releases && !old.isNull && !old.isSameObject new then e.release old r else r

/-- Adopts the session state of a window that has one. A remapper stays with the session: when the
new state has none, it takes over that of the old one, if it can be set. -/
def adoptState (new : Value) (r : Run κ σ) : Run κ σ :=
  let store := r.scene.store
  let previous := store.field r.scene.context.requestResult "remapper"
  let state := store.sessionState new
  if state.isNull then r
  else
    let r := r.withContext fun c => { c with requestResult := state }
    if !previous.isNull && (store.field state "remapper").isNull then
      match store.setField? state "remapper" previous with
      | some store => r.withStore store
      | none => r
    else r

/-- Puts a new window in the place of the active one. -/
def replaceWindow (e : Engine κ σ) (data : Value) (r : Run κ σ) : Run κ σ :=
  let old := r.scene.context.window
  let new := r.scene.store.newWindow data
  let r := e.releaseReplaced old new r
  let r := r.withContext fun c => { c with window := new }
  adoptState new r

/-- Whether a result hands over a new window. -/
def carriesWindow (e : Engine κ σ) (command : Command) (result : CommandResult) (r : Run κ σ) :
    Bool :=
  result.success && e.config.replacing.contains command.name &&
    !(r.scene.store.newWindow result.data).isNull

/-- Records a result, and replaces the window when the result carries one. -/
def record (e : Engine κ σ) (command : Command) (result : CommandResult) (r : Run κ σ) :
    Run κ σ :=
  let r := r.withContext fun c => { c with results := c.results ++ [result] }
  if e.carriesWindow command result r then e.replaceWindow result.data r else r

/-- One command from its announcement to its report. -/
def attempt (e : Engine κ σ) (start : Value) (total index : Nat) (command : Command)
    (r : Run κ σ) : Except Clock.Fault CommandResult × Run κ σ :=
  match e.emitProgress total index command.name .running start r with
  | (.error f, r) => (.error f, r)
  | (.ok _, r) =>
    match e.dispatch command index r with
    | (.error f, r) => (.error f, r)
    | (.ok result, r) =>
      let r := e.record command result r
      let status := if result.success then Status.success else .error
      match e.emitProgress total index command.name status start r with
      | (.error f, r) => (.error f, r)
      | (.ok _, r) => (.ok result, r)

/-- Whether the run ends after a result. -/
def stopsAfter (result : CommandResult) (r : Run κ σ) : Bool :=
  !result.success && !r.scene.store.isTruthy r.scene.context.continueOnError

end Engine

namespace Hazards

variable {κ σ : Type}

/-- What is raised when it is asked whether a run goes on after a result. Nothing is asked after a
success. -/
def struck? (hz : Hazards κ σ) (result : CommandResult) (r : Run κ σ) : Option Failure :=
  if result.success then none else hz.asking r.scene.context.continueOnError r.scene

/-- What is raised in place of a failed result of the engine's own making, and where the run stands
then. The present time is read before. -/
def unrecorded? (hz : Hazards κ σ) (e : Engine κ σ) (start : Value) (total index : Nat)
    (command : Command) (r : Run κ σ) : Option (Failure × Run κ σ) :=
  match e.emitProgress total index command.name .running start r with
  | (.error _, _) => none
  | (.ok _, r) =>
    match e.trouble? command index r with
    | none => none
    | some (message, r) =>
      match Clock.milliseconds r.scene.clock with
      | .error _ => none
      | .ok _ => (hz.failing message r.scene).map fun f => (f, r)

/-- The commands from a position on, amid hazards. -/
def runFrom (hz : Hazards κ σ) (e : Engine κ σ) (start : Value) (total : Nat) :
    Nat → List Command → Run κ σ → Except Escape Unit × Run κ σ
  | _, [], r => (.ok (), r)
  | index, command :: rest, r =>
    match e.onProgress.bind hz.following, hz.unrecorded? e start total index command r with
    | some f, _ => (.error (.raised f), r)
    | none, some (f, r) => (.error (.raised f), r)
    | none, none =>
      match e.attempt start total index command r with
      | (.error f, r) => (.error (.clock f), r)
      | (.ok result, r) =>
        match hz.struck? result r with
        | some f => (.error (.raised f), r)
        | none =>
          if Engine.stopsAfter result r then (.ok (), r)
          else hz.runFrom e start total (index + 1) rest r

end Hazards

namespace Engine

variable {κ σ : Type}

/-- The commands from a position on. -/
def runFrom (e : Engine κ σ) (start : Value) (total index : Nat) (commands : List Command)
    (r : Run κ σ) : Except Escape Unit × Run κ σ :=
  Hazards.never.runFrom e start total index commands r

/-- The account of a finished run. -/
def account (config : Config) (start : Value) (scene : Scene κ σ) :
    Except Clock.Fault RunResult :=
  match elapsedSince start scene.clock with
  | .error f => .error f
  | .ok duration =>
    let results := scene.context.results
    let ok := (results.filter CommandResult.success).length
    let errors := results.length - ok
    .ok
      { success := errors == 0
        configName := config.name.toOption
        backend := some scene.context.backend
        totalCommands := config.commands.length
        successCount := ok
        errorCount := errors
        duration, results }

/-- The start time of a run: that of its context, or else the present. -/
def startOf (scene : Scene κ σ) : Value :=
  if scene.store.isTruthy scene.context.startTime then scene.context.startTime
  else .float scene.clock

/-- The run with its start time noted and the open fields of its context filled. -/
def prepare (config : Config) (r : Run κ σ) : Run κ σ :=
  let start := startOf r.scene
  r.withContext fun c =>
    { c with startTime := start }.applyDefaults r.scene.store config.settings.toOption

/-- The run with its start time noted and those fields of its context filled that do not want the
settings as a document. -/
def begin (config : Config) (r : Run κ σ) : Run κ σ :=
  (prepare config r).withContext fun c =>
    { c with
      settings := r.scene.context.settings
      windowPolyfills := r.scene.context.windowPolyfills }

/-- Runs a configuration in its scene, amid hazards if there are any. -/
def execute (e : Engine κ σ) (config : Config) (r : Run κ σ) (hz : Hazards κ σ := .never) :
    Except Escape RunResult × Run κ σ :=
  let start := startOf r.scene
  match hz.unwritten? config r.scene with
  | some f => (.error (.raised f), begin config r)
  | none =>
    match hz.runFrom e start config.commands.length 0 config.commands (prepare config r) with
    | (.error err, r) => (.error err, r)
    | (.ok _, r) => ((account config start r.scene).mapError .clock, r)

end Engine

end Playbook
